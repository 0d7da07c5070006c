import SchemaBinding.Proofs.SchemaSet.Shared

namespace SchemaBinding

open Reading

theorem countP_take {α : Type} {counts : α → Bool} {list : List α} {start count : Nat}
    (hcount : count ≤ list.length)
    (h : ∀ index (hlt : index < list.length), index < count →
      (counts list[index] = true ↔ start ≤ index)) :
    (list.take count).countP counts = count - start := by
  induction count with
  | zero => rw [List.take_zero, List.countP_nil, Nat.zero_sub]
  | succ count ih =>
      have hbefore := ih (Nat.le_of_succ_le hcount) fun index hlt hindex =>
        h index hlt (Nat.lt_succ_of_lt hindex)
      have hlast := h count hcount (Nat.lt_succ_self count)
      rw [List.take_succ_eq_append_getElem hcount, List.countP_append, hbefore,
        List.countP_singleton]
      split
      case isTrue hcounts =>
          have hle := hlast.mp hcounts
          omega
      case isFalse hnot =>
          have hlt := mt hlast.mpr hnot
          omega

namespace Part

variable {part : Part} {origin : Origin}

theorem document_eq_of_holds {element : Xml.Element} (hchild : part.child = .of element)
    (hread : part.child.declared origin part.before = .ok (part.named, part.after))
    {kind : SymbolKind} {id : Id kind} (hholds : part.Holds id) {component : Component kind}
    (hcomponent : part.after.component? id = some component) :
    ∀ document ∈ (Component.mentions component).documents, document = origin.document := by
  have horigin : Origin.Beside (part.base part fun a b => a = origin.document ∧
      b = origin.document) origin origin := ⟨⟨rfl, rfl⟩, rfl, .inl rfl⟩
  have hsame : part.child.InStep (part.base part fun a b => a = origin.document ∧
      b = origin.document) part.child := by
    rw [hchild]
    exact inStep_of _ element element (.refl _ element)
  obtain ⟨habreast, _⟩ := stepsTo_of_declared horigin hsame hread hread
  obtain ⟨stage, _, found, other, _, _, _, _, hfound, _, hmatches⟩ :=
    habreast.exists_stage ⟨hholds.1, hholds.2, rfl⟩
  rw [hcomponent] at hfound
  cases hfound
  intro document hdocument
  obtain ⟨_, _, hown, _⟩ :=
    exists_rel_of_mem (Component.mentions_matches hmatches.here).documents hdocument
  exact hown

namespace Chain

variable {position position' : Nat} {origin' : Origin} {first first' last last' : Model}
  {parts parts' : List Part}

/-- Where the blocks of parts that are related are of one size, related parts come after as many
numbers. -/
theorem offset_eq {related : Part → Part → Prop} {kind : SymbolKind}
    (hsize : ∀ part other, related part other →
      other.after.size kind + part.before.size kind =
        part.after.size kind + other.before.size kind)
    (h : Chain origin position first parts last)
    (h' : Chain origin' position' first' parts' last') (hrel : List.Forall₂ related parts parts') :
    List.Forall₂ (fun part other => related part other ∧
      other.before.size kind + first.size kind = part.before.size kind + first'.size kind)
      parts parts' := by
  induction h generalizing position' first' parts' with
  | nil =>
      cases hrel
      exact .nil
  | @cons position child before after last named rest hread _ ih =>
      cases hrel with
      | cons hpart hrest =>
          cases h' with
          | cons _ hothers =>
              have hblock := hsize _ _ hpart
              refine .cons ⟨hpart, Nat.add_comm _ _⟩ ((ih hothers hrest).imp ?_)
              rintro part other ⟨hrelated, hoffset⟩
              refine ⟨hrelated, ?_⟩
              simp only at hblock
              omega

end Chain

end Part

namespace SchemaSet

def ordinal (set : SchemaSet) (document : DocumentId) (id : TypeId) : Nat :=
  (set.model.types.toList.take id.index).countP fun type => type.span.document = document

/-- The path of a type's document, and the number of types that this has before it. -/
def place? (set : SchemaSet) (id : TypeId) : Option (Path × Nat) := do
  let type ← set.model.type? id
  let document ← set.document? type.span.document
  return (document.path, set.ordinal type.span.document id)

namespace LaidOut

variable {permissive : Bool} {set : SchemaSet} {layout : Layout}
  (h : set.LaidOut permissive layout)

include h

theorem document_eq {part : Part} (hpart : set.IsPart layout part) {id : TypeId}
    (hholds : part.Holds id) {type : TypeDef} (htype : set.model.type? id = some type) :
    type.span.document = part.document := by
  have hgrows := h.grows hpart
  obtain ⟨document, hdocument, hmem⟩ := hpart
  obtain ⟨element, _, hchild⟩ := h.ordinary hdocument hmem
  have hread := ((h.document _ document hdocument).chain.read hmem).2
  have hcomponent : part.after.component? id = some type := by
    rw [← hgrows.component? id hholds.2]
    exact htype
  have hspan : type.span.document ∈ (TypeDef.mentions type).documents :=
    List.mem_append_right _ List.mem_cons_self
  exact Part.document_eq_of_holds hchild hread hholds hcomponent _ hspan

/-- The types of a document are those of its block. -/
theorem document_eq_iff {part : Part} (hpart : set.IsPart layout part) {id : TypeId}
    {type : TypeDef} (htype : set.model.type? id = some type)
    (hlt : id.index < part.after.size .type) : type.span.document = part.document ↔
      (layout.stage part.document.index).size .type ≤ id.index := by
  have hbelow : id.index < set.model.size .type := Model.index_lt_of_component? htype
  obtain ⟨other, hother, hholds⟩ := h.exists_part hbelow
  have hwithin := h.within hpart
  have hwithin' := h.within hother
  have hdocument := h.document_eq hother hholds htype
  obtain ⟨hle, hend⟩ := hholds
  have hstart := hwithin'.1.size_le .type
  have hstop := hwithin'.2.2.size_le .type
  have hpartStop := hwithin.2.2.size_le .type
  obtain ⟨_, hfound, _⟩ := hpart
  obtain ⟨_, hfound', _⟩ := hother
  have hin : part.document.index < set.size := (Array.getElem?_eq_some_iff.mp hfound).choose
  have hin' : other.document.index < set.size := (Array.getElem?_eq_some_iff.mp hfound').choose
  rw [hdocument]
  constructor
  · intro heq
    rw [heq] at hstart
    omega
  · intro hfrom
    rcases Nat.lt_trichotomy other.document.index part.document.index with hless | heq | hmore
    · have hearlier : (layout.stage (other.document.index + 1)).Prefix
          (layout.stage part.document.index) := h.stage_grows hless (Nat.le_of_lt hin)
      have hsize := hearlier.size_le .type
      omega
    · exact congrArg DocumentId.mk heq
    · have hlater : (layout.stage (part.document.index + 1)).Prefix
          (layout.stage other.document.index) := h.stage_grows hmore (Nat.le_of_lt hin')
      have hsize := hlater.size_le .type
      omega

theorem place?_eq {part : Part} (hpart : set.IsPart layout part) {document : SchemaDocument}
    (hdocument : set.document? part.document = some document) {id : TypeId}
    (hholds : part.Holds id) : set.place? id = some (document.path,
      id.index - (layout.stage part.document.index).size .type) := by
  have hlt : id.index < set.model.size .type :=
    Nat.lt_of_lt_of_le hholds.2 ((h.grows hpart).size_le .type)
  have htype : set.model.type? id = some set.model.types[id.index] :=
    Array.getElem?_eq_getElem hlt
  have hordinal : set.ordinal part.document id =
      id.index - (layout.stage part.document.index).size .type := by
    apply countP_take
    · rw [Array.length_toList]
      exact Nat.le_of_lt hlt
    · intro index hindex hbefore
      rw [Array.length_toList] at hindex
      rw [decide_eq_true_iff, Array.getElem_toList]
      have hother : set.model.type? ⟨index⟩ = some set.model.types[index] :=
        Array.getElem?_eq_getElem hindex
      exact h.document_eq_iff hpart hother (Nat.lt_trans hbefore hholds.2)
  simp only [place?, htype, Option.bind_eq_bind, Option.bind_some,
    h.document_eq hpart hholds htype, hdocument, hordinal]
  rfl

theorem eq_of_place?_eq (hnodup : set.locations.Nodup) {a b : TypeId}
    (ha : a.index < set.model.size .type) (hb : b.index < set.model.size .type)
    (heq : set.place? a = set.place? b) : a = b := by
  obtain ⟨part, hpart, hholds⟩ := h.exists_part ha
  obtain ⟨other, hother, hholds'⟩ := h.exists_part hb
  obtain ⟨document, hdocument, _⟩ := id hpart
  obtain ⟨document', hdocument', _⟩ := id hother
  rw [h.place?_eq hpart hdocument hholds, h.place?_eq hother hdocument' hholds'] at heq
  obtain ⟨hpath, hordinal⟩ := Prod.mk.inj (Option.some.inj heq)
  have hlocation : set.location? part.document = some (.file document.path) :=
    location?_eq_some_iff.mpr ⟨document, hdocument, rfl⟩
  have hlocation' : set.location? other.document = some (.file document.path) :=
    location?_eq_some_iff.mpr ⟨document', hdocument', by rw [hpath]⟩
  have hstart := (h.within hpart).1.size_le .type
  have hstart' := (h.within hother).1.size_le .type
  rw [← eq_of_location?_eq hnodup hlocation hlocation'] at hordinal hstart'
  have hle := hholds.1
  have hle' := hholds'.1
  exact Id.eq_of_index (by omega)

end LaidOut

theorem Shares.place?_eq {setting : Setting} {first second : SchemaSet} {layout layout' : Layout}
    (h : first.Shares setting second layout layout') {a b : TypeId}
    (hpaired : (byPosition first second layout layout').pairing.id a b) :
    first.place? a = second.place? b := by
  obtain ⟨part, other, hparts, hpaired⟩ := hpaired
  obtain ⟨hpart, hother, halong, _⟩ := id hparts
  obtain ⟨document, document', hdocument, hdocument', hpath, _⟩ := h.exists_documents halong
  obtain ⟨_, hfound, hmem⟩ := id hpart
  rw [hdocument] at hfound
  cases hfound
  have hoffsets := (h.laidOut.document _ document hdocument).chain.offset_eq
    (fun part other hrelated => (h.linked.abreast hrelated.1).1.size_eq .type)
    (h.laidOut'.document _ document' hdocument').chain (h.parts_rel halong)
  obtain ⟨found, _, ⟨hrelated, _⟩, hoffset⟩ := exists_rel_of_mem hoffsets hmem
  rw [(h.linked.unique hrelated hparts).mp rfl] at hoffset
  obtain ⟨hholds, hholds'⟩ := h.linked.holds hparts hpaired
  rw [h.laidOut.place?_eq hpart hdocument hholds, h.laidOut'.place?_eq hother hdocument' hholds',
    hpath]
  have hblock := hpaired.2.2
  simp only [Part.base] at hblock
  have hle := hholds.1
  congr 2
  omega

end SchemaSet

end SchemaBinding
