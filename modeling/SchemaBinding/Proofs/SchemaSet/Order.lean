import SchemaBinding.Proofs.Loading.Order
import SchemaBinding.Proofs.SchemaSet.Shared

namespace SchemaBinding

open Reading

theorem Part.key?_of_symbol? {origin : Origin} {position : Nat} {first last : Model}
    {parts : List Part} (h : Part.Chain origin position first parts last) {part : Part}
    (hpart : part ∈ parts) {kind : SymbolKind} {name : String} {id : Id kind}
    (hsymbol : part.symbol? kind name = some id) : part.child.key? = some (kind, name) := by
  rw [h.key?_eq hpart]
  simp only [symbol?, Option.bind_eq_some_iff] at hsymbol
  obtain ⟨named, hnamed, hid⟩ := hsymbol
  split at hid
  case isTrue heq =>
      obtain ⟨rfl, rfl⟩ := heq
      rw [hnamed]
      rfl
  case isFalse => cases hid

theorem findSome?_of_unique {α β : Type} {f : α → Option β} {list : List α} {item : α} {value : β}
    (hitem : item ∈ list) (hvalue : f item = some value)
    (hunique : ∀ other ∈ list, (f other).isSome = true → other = item) :
    list.findSome? f = some value := by
  cases hfound : list.findSome? f with
  | none =>
      rw [List.findSome?_eq_none_iff.mp hfound item hitem] at hvalue
      cases hvalue
  | some found =>
      obtain ⟨other, hother, hsome⟩ := List.exists_of_findSome?_eq_some hfound
      rw [hunique other hother (by rw [hsome]; rfl), hvalue] at hsome
      exact hsome.symm

namespace SchemaSet

def byKey (first second : SchemaSet) (layout layout' : Layout) : Linkage where
  documents := first.Alongside second
  parts part other := first.IsPart layout part ∧ second.IsPart layout' other ∧
    first.Alongside second part.document other.document ∧
    part.child.element.Same other.child.element ∧ part.child.key?.isSome = true

theorem LaidOut.eq_of_key? {permissive : Bool} {set : SchemaSet} {layout : Layout}
    (h : set.LaidOut permissive layout) {id : DocumentId} {document : SchemaDocument}
    (hdocument : set.document? id = some document)
    (honce : document.document.root.DeclaresOnce) {part other : Part}
    (hpart : part ∈ layout.parts id.index) (hother : other ∈ layout.parts id.index)
    {key : SymbolKind × String} (hkey : part.child.key? = some key)
    (hkey' : other.child.key? = some key) : part = other := by
  rw [Xml.Element.DeclaresOnce, Xml.Element.declaredKeys,
    ← (h.document id document hdocument).children, List.filterMap_map, List.Nodup,
    List.pairwise_filterMap] at honce
  have hforward : (layout.parts id.index).Pairwise fun part other =>
      part.child.key? = some key → other.child.key? = some key → part = other :=
    honce.imp fun hne hfirst hsecond => absurd rfl (hne key hfirst key hsecond)
  have hbackward : (layout.parts id.index).Pairwise (flip fun part other =>
      part.child.key? = some key → other.child.key? = some key → part = other) :=
    hforward.imp fun hpair hfirst hsecond => (hpair hsecond hfirst).symm
  exact List.Pairwise.forall_of_forall_of_flip (fun _ _ _ _ => rfl) hforward hbackward hpart hother
    hkey hkey'

/-- Two sets that were loaded from documents which differ in the order of their children. -/
structure Rearranged (tree other : FileTree) (limits : Limits) (permissive : Bool)
    (roots : List Path) (first second : SchemaSet) (layout layout' : Layout) : Prop where
  trees : tree.Reorders limits other
  once : Setting.DeclaresOnce ⟨tree, limits, permissive⟩ roots
  laidOut : first.LaidOut permissive layout
  laidOut' : second.LaidOut permissive layout'
  load : SchemaSet.load tree roots limits permissive = .ok first
  load' : SchemaSet.load other roots limits permissive = .ok second

namespace Rearranged

variable {tree other : FileTree} {limits : Limits} {permissive : Bool} {roots : List Path}
  {first second : SchemaSet} {layout layout' : Layout}
  (h : Rearranged tree other limits permissive roots first second layout layout')

include h

theorem symm : Rearranged other tree limits permissive roots second first layout' layout where
  trees := h.trees.symm
  once := h.trees.declaresOnce_of_roots h.once
  laidOut := h.laidOut'
  laidOut' := h.laidOut
  load := h.load'
  load' := h.load

theorem closure : first.ClosureOf ⟨tree, limits, permissive⟩ roots :=
  closureOf_of_load h.load

theorem closure' : second.ClosureOf ⟨other, limits, permissive⟩ roots :=
  closureOf_of_load h.load'

theorem biUnique : Relator.BiUnique (first.Alongside second) :=
  h.closure.biUnique h.closure'

theorem links_eq {location : Location} (hlocation : location ∈ first.locations) :
    Setting.links ⟨tree, limits, permissive⟩ location =
      Setting.links ⟨other, limits, permissive⟩ location :=
  h.trees.links_eq (h.once location ((h.closure.mem_iff location).mp hlocation))

theorem declaresOnce {id : DocumentId} {document : SchemaDocument}
    (hdocument : first.document? id = some document) :
    document.document.root.DeclaresOnce := by
  have hplace : first.location? id = some (.file document.path) :=
    location?_eq_some_iff.mpr ⟨document, hdocument, rfl⟩
  obtain ⟨alone, hholds, _⟩ := h.closure.holds document (Array.mem_of_getElem? hdocument)
  obtain ⟨_, ⟨text, hread, _, hparse⟩, _⟩ := hholds
  obtain ⟨_, hroot, _⟩ := Xml.Document.parse_eq_ok_iff.mp hparse
  exact h.once _ ((h.closure.mem_iff _).mp (List.mem_of_getElem? hplace)) text _ hread hroot

theorem exists_documents {id id' : DocumentId} (halong : first.Alongside second id id') :
    ∃ document document', first.document? id = some document ∧
      second.document? id' = some document' ∧
        document.document.root.Permuted document'.document.root := by
  obtain ⟨document, document', hdocument, hdocument', hpath⟩ := alongside_iff.mp halong
  have hplace : first.location? id = some (.file document.path) :=
    location?_eq_some_iff.mpr ⟨document, hdocument, rfl⟩
  have honce := h.once _ ((h.closure.mem_iff _).mp (List.mem_of_getElem? hplace))
  obtain ⟨alone, hholds, _⟩ := h.closure.holds document (Array.mem_of_getElem? hdocument)
  obtain ⟨alone', hholds', _⟩ := h.closure'.holds document' (Array.mem_of_getElem? hdocument')
  obtain ⟨found, schema, hfound, _, hpermuted⟩ := h.trees.exists_holds honce hholds
  rw [← hpath] at hholds'
  rw [hfound.document_eq hholds'] at hpermuted
  exact ⟨document, document', hdocument, hdocument', hpermuted⟩

theorem exists_counterpart {id id' : DocumentId} (halong : first.Alongside second id id')
    {part : Part} (hpart : part ∈ layout.parts id.index) (hkey : part.child.key?.isSome = true) :
    ∃ counterpart ∈ layout'.parts id'.index,
      (byKey first second layout layout').parts part counterpart := by
  obtain ⟨document, document', hdocument, hdocument', hpermuted⟩ := h.exists_documents halong
  have hchild : part.child ∈ schemaParts document.document.root.children := by
    rw [← (h.laidOut.document id document hdocument).children]
    exact List.mem_map_of_mem hpart
  rw [schemaParts_eq] at hchild
  obtain ⟨element, helement, heq⟩ := List.mem_map.mp hchild
  obtain ⟨hmem, hspace⟩ := List.mem_filter.mp helement
  obtain ⟨element', hmem', hsame⟩ := hpermuted.exists_same hmem
  have hchild' : Child.of element' ∈ (layout'.parts id'.index).map Part.child := by
    rw [(h.laidOut'.document id' document' hdocument').children, schemaParts_eq]
    refine List.mem_map_of_mem (List.mem_filter.mpr ⟨hmem', ?_⟩)
    rw [← hsame.inSchemaSpace_eq]
    exact hspace
  obtain ⟨counterpart, hcounterpart, heq'⟩ := List.mem_map.mp hchild'
  obtain ⟨rfl, hisPart⟩ := h.laidOut.isPart hdocument hpart
  obtain ⟨rfl, hisCounterpart⟩ := h.laidOut'.isPart hdocument' hcounterpart
  refine ⟨counterpart, hcounterpart, hisPart, hisCounterpart, halong, ?_, hkey⟩
  rw [← heq, heq']
  exact hsame

theorem key?_eq {part counterpart : Part}
    (hparts : (byKey first second layout layout').parts part counterpart) :
    part.child.key? = counterpart.child.key? := by
  obtain ⟨⟨document, hdocument, hmem⟩, ⟨document', hdocument', hmem'⟩, _, hsame, _⟩ := hparts
  obtain ⟨element, _, heq⟩ := h.laidOut.ordinary hdocument hmem
  obtain ⟨element', _, heq'⟩ := h.laidOut'.ordinary hdocument' hmem'
  rw [heq, heq'] at hsame ⊢
  exact Child.key?_of_same hsame

theorem eq_of_counterpart {part part' counterpart : Part}
    (hparts : (byKey first second layout layout').parts part counterpart)
    (hparts' : (byKey first second layout layout').parts part' counterpart) : part = part' := by
  have hkey := h.key?_eq hparts
  have hkey' := h.key?_eq hparts'
  obtain ⟨⟨document, hdocument, hmem⟩, _, halong, _, hsome⟩ := hparts
  obtain ⟨⟨document', hdocument', hmem'⟩, _, halong', _⟩ := hparts'
  obtain ⟨key, hfound⟩ := Option.isSome_iff_exists.mp hsome
  rw [← h.biUnique.1 halong halong'] at hmem'
  exact h.laidOut.eq_of_key? hdocument (h.declaresOnce hdocument) hmem hmem' hfound
    (hkey'.trans (hkey.symm.trans hfound))

theorem flip {part counterpart : Part}
    (hparts : (byKey first second layout layout').parts part counterpart) :
    (byKey second first layout' layout).parts counterpart part := by
  have hkey := h.key?_eq hparts
  obtain ⟨hpart, hcounterpart, halong, hsame, hsome⟩ := hparts
  rw [hkey] at hsome
  exact ⟨hcounterpart, hpart, halong.flip, hsame.symm, hsome⟩

theorem linked :
    first.Linked (byKey first second layout layout') permissive second layout layout' where
  laidOut := h.laidOut
  laidOut' := h.laidOut'
  document {id id'} halong := by
    obtain ⟨document, document', hdocument, hdocument', hpermuted⟩ := h.exists_documents halong
    exact ⟨document, document', hdocument, hdocument', hpermuted.targetSpace_eq⟩
  part {part other} hparts := ⟨hparts.1, hparts.2.1, hparts.2.2.1, hparts.2.2.2.1⟩
  unique {part part' other other'} hparts hparts' := by
    constructor
    · rintro rfl
      exact h.symm.eq_of_counterpart (h.flip hparts) (h.flip hparts')
    · rintro rfl
      exact h.eq_of_counterpart hparts hparts'

/-- What is found under a name in a document is what its one part of that name declares. -/
theorem findSome?_eq {id id' : DocumentId} (halong : first.Alongside second id id')
    {kind : SymbolKind} {name : String} {found : Id kind}
    (hfound : (layout.parts id.index).findSome? (fun part => part.symbol? kind name) =
      some found) :
    ∃ found', (byKey first second layout layout').pairing.id found found' ∧
      (layout'.parts id'.index).findSome? (fun part => part.symbol? kind name) = some found' := by
  obtain ⟨document, document', hdocument, hdocument', _⟩ := h.exists_documents halong
  obtain ⟨part, hpart, hsymbol⟩ := List.exists_of_findSome?_eq_some hfound
  have hkey := Part.key?_of_symbol? (h.laidOut.document id document hdocument).chain hpart hsymbol
  obtain ⟨counterpart, hcounterpart, hparts⟩ :=
    h.exists_counterpart halong hpart (by rw [hkey]; rfl)
  have hrel := h.linked.symbol?_rel hparts kind name
  rw [hsymbol] at hrel
  generalize hsymbol' : counterpart.symbol? kind name = symbol' at hrel
  have hchain' := (h.laidOut'.document id' document' hdocument').chain
  cases hrel with
  | @some _ found' hpaired =>
      refine ⟨found', hpaired, findSome?_of_unique hcounterpart hsymbol' ?_⟩
      intro other hother hsome
      obtain ⟨symbol, hsymbol⟩ := Option.isSome_iff_exists.mp hsome
      exact h.laidOut'.eq_of_key? hdocument' (h.symm.declaresOnce hdocument') hother hcounterpart
        (Part.key?_of_symbol? hchain' hother hsymbol)
        (Part.key?_of_symbol? hchain' hcounterpart hsymbol')

theorem symbols_rel {id id' : DocumentId} (halong : first.Alongside second id id')
    (kind : SymbolKind) (name : String) :
    Option.Rel (byKey first second layout layout').pairing.id
      ((layout.parts id.index).findSome? fun part => part.symbol? kind name)
      ((layout'.parts id'.index).findSome? fun part => part.symbol? kind name) := by
  cases hfound : (layout.parts id.index).findSome? fun part => part.symbol? kind name with
  | some found =>
      obtain ⟨found', hpaired, hfound'⟩ := h.findSome?_eq halong hfound
      rw [hfound']
      exact .some hpaired
  | none =>
      cases hfound' : (layout'.parts id'.index).findSome? fun part => part.symbol? kind name with
      | none => exact .none
      | some found' =>
          obtain ⟨found, _, hsome⟩ := h.symm.findSome?_eq halong.flip hfound'
          rw [hfound] at hsome
          cases hsome

theorem paired : first.Paired (byKey first second layout layout').pairing second := by
  apply h.linked.paired
  · intro id id' halong
    exact visible_rel h.biUnique
      (h.closure.linksAlike_links h.closure' fun _ => h.links_eq) halong
  · intro id id' halong
    exact h.symbols_rel halong

end Rearranged

end SchemaSet

end SchemaBinding
