import SchemaBinding.Proofs.Component.Reread
import SchemaBinding.Proofs.Resolution.Paired
import SchemaBinding.Proofs.SchemaSet.Preorder

namespace SchemaBinding

theorem rel_imp {α β : Type} {related loose : α → β → Prop} {item? : Option α} {other? : Option β}
    (h : Option.Rel related item? other?)
    (himp : ∀ item other, related item other → loose item other) :
    Option.Rel loose item? other? := by
  cases h with
  | none => exact .none
  | some hitem => exact .some (himp _ _ hitem)

section

variable {α β : Type} {related : α → β → Prop} {items : List α} {others : List β}
  (h : List.Forall₂ related items others)

include h

theorem getElem?_rel (index : Nat) : Option.Rel related items[index]? others[index]? := by
  induction h generalizing index with
  | nil => exact .none
  | cons hitem _ ih =>
      cases index with
      | zero => exact .some hitem
      | succ index => simpa using ih index

theorem modify_rel {change : α → α} {change' : β → β}
    (hchange : ∀ item other, related item other → related (change item) (change' other))
    (index : Nat) :
    List.Forall₂ related (items.modify index change) (others.modify index change') := by
  induction h generalizing index with
  | nil => simp
  | cons hitem hrest ih =>
      cases index with
      | zero => exact .cons (hchange _ _ hitem) hrest
      | succ index => exact .cons hitem (ih index)

end

def Base.fresh (terms : Terms) : Base where
  first := {}
  second := {}
  documents := Eq
  terms := terms

theorem Base.eq_of_fresh {terms : Terms} {limit : SymbolKind → Nat} {kind : SymbolKind}
    {a b : Id kind} (h : ((Base.fresh terms).upTo limit).id a b) : a = b :=
  Id.eq_of_index (Nat.add_right_cancel h.2.2).symm

structure SchemaDocument.Matches (terms : Terms) (pairing : Pairing)
    (document other : SchemaDocument) : Prop where
  path : document.path = other.path
  schema : document.schema.Matches terms pairing other.schema
  includes : document.includes = other.includes
  imports : document.imports = other.imports

theorem SchemaDocument.Matches.addLink {terms : Terms} {pairing : Pairing}
    {document other : SchemaDocument} (h : document.Matches terms pairing other) (kind : LinkKind)
    (id : DocumentId) :
    (document.addLink kind id).Matches terms pairing (other.addLink kind id) := by
  obtain ⟨path, source, schema, includes, imports⟩ := document
  obtain ⟨path', source', schema', includes', imports'⟩ := other
  obtain ⟨rfl, hschema, rfl, rfl⟩ := h
  cases kind with
  | inclusion => exact ⟨rfl, hschema, rfl, rfl⟩
  | importing => exact ⟨rfl, hschema, rfl, rfl⟩

namespace SchemaSet

/-- Sets of documents that match one by one. -/
structure Beside (terms : Terms) (set other : SchemaSet) : Prop where
  model : (Base.fresh terms).Abreast set.model other.model
  documents : List.Forall₂
    (fun document document' => (Base.fresh terms).Holds set.model.size fun pairing =>
      document.Matches terms pairing document') set.documents.toList other.documents.toList
  roots : set.roots = other.roots

namespace Beside

variable {terms : Terms} {set other : SchemaSet} (h : set.Beside terms other)

theorem empty (terms : Terms) : Beside terms {} {} :=
  ⟨.start, .nil, rfl⟩

include h

theorem size_eq : set.size = other.size := by
  simpa [size] using h.documents.length_eq

theorem link (parent : Option (DocumentId × LinkKind)) (id : DocumentId) :
    (set.link parent id).Beside terms (other.link parent id) := by
  cases parent with
  | none => exact { h with roots := by rw [SchemaSet.link, SchemaSet.link, h.roots] }
  | some parent =>
      refine { h with documents := ?_ }
      simp only [SchemaSet.link, Array.toList_modify]
      apply modify_rel h.documents
      intro document document' hdocument pairing hwithin
      exact (hdocument pairing hwithin).addLink _ _

theorem document?_rel (id : DocumentId) :
    Option.Rel (fun document document' => (Base.fresh terms).Holds set.model.size fun pairing =>
      document.Matches terms pairing document') (set.document? id) (other.document? id) := by
  simpa [document?] using getElem?_rel h.documents id.index

end Beside

namespace Beside

variable {terms : Terms} {set other : SchemaSet} (h : set.Beside terms other)

include h

abbrev pairing (_ : set.Beside terms other) : Pairing :=
  (Base.fresh terms).upTo set.model.size

theorem document?_matches (id : DocumentId) :
    Option.Rel (SchemaDocument.Matches terms h.pairing) (set.document? id)
      (other.document? id) :=
  rel_imp (h.document?_rel id) fun _ _ hdocument => hdocument.here

theorem visible_eq (start : DocumentId) : set.visible start = other.visible start := by
  rw [visible, visible, walk_eq]
  intro id
  apply rel_imp (h.document?_matches id)
  intro document document' hdocument
  rw [SchemaDocument.links, SchemaDocument.links, hdocument.includes, hdocument.imports]

theorem includeClosure_eq (start : DocumentId) :
    set.includeClosure start = other.includeClosure start := by
  rw [includeClosure, includeClosure, walk_eq]
  intro id
  exact rel_imp (h.document?_matches id) fun _ _ hdocument => hdocument.includes

theorem declaredIn?_rel (kind : SymbolKind) (name : QName) (id : DocumentId) :
    Option.Rel h.pairing.id (set.declaredIn? kind name id) (other.declaredIn? kind name id) := by
  have hdocument := h.document?_matches id
  rw [declaredIn?, declaredIn?]
  generalize set.document? id = found at hdocument ⊢
  generalize other.document? id = found' at hdocument ⊢
  cases hdocument with
  | none => exact .none
  | @some document document' hmatches =>
      have hspace : document.targetSpace = document'.targetSpace := hmatches.schema.targetSpace
      simp only [Option.bind_eq_bind, Option.bind_some, hspace]
      split
      case isTrue => exact hmatches.schema.symbols.get?_rel kind name.localName
      case isFalse => exact .none

theorem lookup?_rel (kind : SymbolKind) (name : QName) (start : DocumentId) :
    Option.Rel h.pairing.id (set.lookup? kind name start) (other.lookup? kind name start) := by
  rw [lookup?, lookup?, h.visible_eq]
  have hsame : List.Forall₂ Eq (other.visible start) (other.visible start) := List.forall₂_refl _
  refine findSome?_forall₂ hsame ?_
  rintro id _ rfl
  exact h.declaredIn?_rel kind name id

theorem paired : set.Paired h.pairing other where
  component {kind a b} hpaired := by
    obtain ⟨stage, stage', component, counterpart, _, hfirst, _, _, hcomponent, hcounterpart,
      hmatches⟩ := h.model.exists_stage hpaired
    exact ⟨component, counterpart, hcomponent, hcounterpart, (hmatches.mono hfirst.size_le).here⟩
  unique hpaired hpaired' := by
    rw [Base.eq_of_fresh hpaired, Base.eq_of_fresh hpaired']
  lookup kind name := by
    rintro id _ rfl
    exact h.lookup?_rel kind name id

end Beside

end SchemaSet

end SchemaBinding
