import SchemaBinding.Proofs.SchemaSet.Enclosed

namespace SchemaBinding

namespace SchemaSet

def Knows (set : SchemaSet) (symbols : List Symbol) : Prop :=
  ∀ symbol ∈ symbols, symbol.id.index < set.model.size symbol.kind

/-- Every number that is stored anywhere is in range. -/
structure InRange (set : SchemaSet) : Prop where
  tables : ∀ document ∈ set.documents, ∀ entry ∈ document.symbols.entries,
    entry.2 < set.model.size entry.1.1
  components : ∀ {kind : SymbolKind} {id : Id kind} {component : Component kind},
    set.model.component? id = some component → set.Knows (Component.mentions component).symbols
  spans : ∀ {kind : SymbolKind} {id : Id kind} {component : Component kind},
    set.model.component? id = some component →
      ∀ document ∈ (Component.mentions component).documents, document.index < set.size
  links : ∀ document ∈ set.documents, ∀ id ∈ document.links, id.index < set.size
  roots : ∀ id ∈ set.roots, id.index < set.size

theorem index_lt_of_loaded {set : SchemaSet} {id : DocumentId} (h : set.Loaded id) :
    id.index < set.size := by
  obtain ⟨document, hdocument⟩ := h
  exact (Array.getElem?_eq_some_iff.mp hdocument).choose

theorem loaded_of_index_lt {set : SchemaSet} {id : DocumentId} (h : id.index < set.size) :
    set.Loaded id :=
  ⟨_, Array.getElem?_eq_getElem h⟩

namespace LaidOut

variable {permissive : Bool} {set : SchemaSet} {layout : Layout}
  (h : set.LaidOut permissive layout)

include h

theorem same_iff {kind : SymbolKind} {a b : Id kind} :
    (Linkage.same set layout).pairing.id a b ↔ a = b ∧ a.index < set.model.size kind := by
  constructor
  · rintro ⟨part, other, ⟨rfl, hpart⟩, hpaired⟩
    have hlt := (h.grows hpart).size_le kind
    obtain ⟨hle, hbelow, hoffset⟩ := hpaired
    simp only [Part.base] at hoffset
    exact ⟨Id.eq_of_index (by omega), by omega⟩
  · rintro ⟨rfl, hlt⟩
    obtain ⟨part, hpart, hle, hbelow⟩ := h.exists_part hlt
    exact ⟨part, part, ⟨rfl, hpart⟩, hle, hbelow, rfl⟩

theorem knows_of_matches {symbols others : List Symbol}
    (hmatches : List.Forall₂ (Symbol.Matches (Linkage.same set layout).pairing) symbols others) :
    set.Knows symbols := by
  intro symbol hsymbol
  obtain ⟨_, _, hmatch⟩ := exists_rel_of_mem hmatches hsymbol
  cases hmatch with
  | mk hpaired => exact (h.same_iff.mp hpaired).2

theorem mentions_of_component? {kind : SymbolKind} {id : Id kind} {component : Component kind}
    (hcomponent : set.model.component? id = some component) :
    ∃ other : Component kind, (Component.mentions component).Matches
      (Linkage.same set layout).pairing (Component.mentions other) := by
  have hlt := Model.index_lt_of_component? hcomponent
  obtain ⟨found, other, hfound, _, hmatches⟩ :=
    h.linked.component (h.same_iff.mpr ⟨rfl, hlt⟩)
  rw [hcomponent] at hfound
  cases hfound
  exact ⟨other, Component.mentions_matches hmatches⟩

theorem symbol_rel {id : DocumentId} (hloaded : set.Loaded id) (kind : SymbolKind)
    (name : String) :
    Option.Rel (Linkage.same set layout).pairing.id
      ((layout.parts id.index).findSome? fun part => part.symbol? kind name)
      ((layout.parts id.index).findSome? fun part => part.symbol? kind name) := by
  obtain ⟨document, hdocument⟩ := hloaded
  cases hfound : (layout.parts id.index).findSome? fun part => part.symbol? kind name with
  | none => exact .none
  | some found =>
      obtain ⟨part, hpart, hsymbol⟩ := List.exists_of_findSome?_eq_some hfound
      have hrel := h.linked.symbol?_rel ⟨rfl, (h.isPart hdocument hpart).2⟩ kind name
      rw [hsymbol] at hrel
      exact hrel

theorem inRange_of_get? {id : DocumentId} {document : SchemaDocument}
    (hdocument : set.document? id = some document) {kind : SymbolKind} {name : String}
    {found : Id kind} (hfound : document.symbols.get? kind name = some found) :
    found.index < set.model.size kind := by
  have hrel := h.symbol_rel ⟨document, hdocument⟩ kind name
  rw [← h.get?_eq hdocument, hfound] at hrel
  cases hrel with
  | some hpaired => exact (h.same_iff.mp hpaired).2

theorem paired_same : set.Paired (Linkage.same set layout).pairing set := by
  apply h.linked.paired
  · rintro id _ ⟨rfl, hloaded⟩
    apply List.forall₂_same.mpr
    intro next hnext
    rw [visible, List.mem_reverse] at hnext
    exact ⟨rfl, (mem_walk_iff.mp hnext).1⟩
  · rintro id _ ⟨rfl, hloaded⟩
    exact h.symbol_rel hloaded

end LaidOut

theorem inRange_of_load {tree : FileTree} {roots : List Path} {limits : Limits}
    {permissive : Bool} {set : SchemaSet} (h : load tree roots limits permissive = .ok set) :
    set.InRange := by
  obtain ⟨layout, hlaid⟩ := exists_layout_of_load h
  constructor
  case tables =>
      rintro document hdocument ⟨⟨kind, name⟩, index⟩ hentry
      obtain ⟨number, hnumber⟩ := Array.mem_iff_getElem?.mp hdocument
      have hmem : (name, (⟨index⟩ : Id kind)) ∈ document.symbols.symbols kind :=
        SymbolTable.mem_symbols_iff.mpr hentry
      have hget := (distinct_of_load h hdocument).get?_eq_some_iff.mpr hmem
      have hfound : set.document? ⟨number⟩ = some document := hnumber
      exact hlaid.inRange_of_get? hfound hget
  case components =>
      intro kind id component hcomponent
      obtain ⟨other, hmatches⟩ := hlaid.mentions_of_component? hcomponent
      exact hlaid.knows_of_matches hmatches.symbols
  case spans =>
      intro kind id component hcomponent document hdocument
      obtain ⟨other, hmatches⟩ := hlaid.mentions_of_component? hcomponent
      obtain ⟨_, _, _, hloaded⟩ := exists_rel_of_mem hmatches.documents hdocument
      exact index_lt_of_loaded hloaded
  case links =>
      intro document hdocument id hid
      obtain ⟨number, hnumber⟩ := Array.mem_iff_getElem?.mp hdocument
      exact index_lt_of_loaded
        (closed_links_of_load h (⟨number⟩ : DocumentId) id ⟨document, hnumber, hid⟩)
  case roots =>
      intro id hid
      have hmem : set.location? id ∈ set.roots.map set.location? := List.mem_map_of_mem hid
      rw [(closureOf_of_load h).roots] at hmem
      obtain ⟨location, _, hlocation⟩ := List.mem_map.mp hmem
      obtain ⟨document, hdocument, _⟩ := location?_eq_some_iff.mp hlocation.symm
      exact index_lt_of_loaded ⟨document, hdocument⟩

end SchemaSet

end SchemaBinding
