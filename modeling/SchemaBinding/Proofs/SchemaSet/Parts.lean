import SchemaBinding.Proofs.Loading.Layout

namespace SchemaBinding

open Reading

/-- Two parts are one, or one follows the other. -/
def Part.Apart (part other : Part) : Prop :=
  part = other ∨ part.after.Prefix other.before ∨ other.after.Prefix part.before

namespace SchemaSet

def IsPart (set : SchemaSet) (layout : Layout) (part : Part) : Prop :=
  ∃ document, set.document? part.document = some document ∧
    part ∈ layout.parts part.document.index

namespace LaidOut

variable {permissive : Bool} {set : SchemaSet} {layout : Layout}
  (h : set.LaidOut permissive layout)

include h

theorem isPart {id : DocumentId} {document : SchemaDocument}
    (hdocument : set.document? id = some document) {part : Part}
    (hpart : part ∈ layout.parts id.index) : part.document = id ∧ set.IsPart layout part := by
  have hid := ((h.document id document hdocument).chain.read hpart).1
  refine ⟨hid, document, ?_, ?_⟩
  · rw [hid]
    exact hdocument
  · rw [hid]
    exact hpart

theorem ordinary {id : DocumentId} {document : SchemaDocument}
    (hdocument : set.document? id = some document) {part : Part}
    (hpart : part ∈ layout.parts id.index) :
    ∃ element ∈ document.document.root.children, part.child = .of element := by
  have hchild : part.child ∈ (layout.parts id.index).map Part.child := List.mem_map_of_mem hpart
  rw [(h.document id document hdocument).children] at hchild
  exact exists_of_mem_schemaParts hchild

theorem chain_ordinary {id : DocumentId} {document : SchemaDocument}
    (hdocument : set.document? id = some document) :
    Part.Chain.Ordinary (layout.parts id.index) := by
  intro part hpart
  obtain ⟨element, _, heq⟩ := h.ordinary hdocument hpart
  exact ⟨element, heq⟩

theorem targetSpace_eq {id : DocumentId} {document : SchemaDocument}
    (hdocument : set.document? id = some document) :
    document.targetSpace = Schema.targetSpaceOf document.document.root :=
  Schema.targetSpace_enterAll (h.document id document hdocument).entered

theorem get?_eq {id : DocumentId} {document : SchemaDocument}
    (hdocument : set.document? id = some document) (kind : SymbolKind) (name : String) :
    document.symbols.get? kind name =
      (layout.parts id.index).findSome? fun part => part.symbol? kind name :=
  Schema.get?_enterAll (h.document id document hdocument).entered kind name

theorem declaredIn?_eq {id : DocumentId} {document : SchemaDocument}
    (hdocument : set.document? id = some document) (kind : SymbolKind) (name : QName) :
    set.declaredIn? kind name id =
      if name.inNamespace (Schema.targetSpaceOf document.document.root) then
        (layout.parts id.index).findSome? fun part => part.symbol? kind name.localName
      else none := by
  rw [declaredIn?, hdocument, ← h.targetSpace_eq hdocument, ← h.get?_eq hdocument]
  rfl

omit h in
theorem exists_document {index : Nat} (hlt : index < set.size) :
    ∃ document, set.document? ⟨index⟩ = some document :=
  ⟨_, Array.getElem?_eq_getElem hlt⟩

theorem stage_grows {first last : Nat} (hle : first ≤ last) (hlast : last ≤ set.size) :
    (layout.stage first).Prefix (layout.stage last) := by
  induction last with
  | zero =>
      rw [Nat.le_zero.mp hle]
      exact .refl _
  | succ last ih =>
      rcases Nat.lt_or_ge last first with hlt | hge
      · rw [Nat.le_antisymm hle hlt]
        exact .refl _
      · obtain ⟨document, hdocument⟩ := exists_document (Nat.lt_of_succ_le hlast)
        have hgrows := (h.document _ document hdocument).chain.grows (h.chain_ordinary hdocument)
        exact (ih hge (Nat.le_of_succ_le hlast)).trans hgrows

variable {part other : Part}

theorem within (hpart : set.IsPart layout part) :
    (layout.stage part.document.index).Prefix part.before ∧ part.before.Prefix part.after ∧
      part.after.Prefix (layout.stage (part.document.index + 1)) := by
  obtain ⟨document, hdocument, hmem⟩ := hpart
  obtain ⟨hbefore, hown, hafter, _⟩ :=
    (h.document _ document hdocument).chain.within (h.chain_ordinary hdocument) hmem
  exact ⟨hbefore, hown, hafter⟩

theorem grows (hpart : set.IsPart layout part) : part.after.Prefix set.model := by
  have hwithin := h.within hpart
  obtain ⟨document, hdocument, _⟩ := hpart
  have hlt : part.document.index < set.size := (Array.getElem?_eq_some_iff.mp hdocument).choose
  rw [← h.final]
  exact hwithin.2.2.trans (h.stage_grows hlt (Nat.le_refl _))

theorem exists_part {kind : SymbolKind} {id : Id kind} (hlt : id.index < set.model.size kind) :
    ∃ part, set.IsPart layout part ∧ part.Holds id := by
  have hreach : ∀ count, count ≤ set.size → id.index < (layout.stage count).size kind →
      ∃ part, set.IsPart layout part ∧ part.Holds id := by
    intro count
    induction count with
    | zero =>
        intro _ hnone
        rw [h.start] at hnone
        cases kind <;> cases hnone
    | succ count ih =>
        intro hcount hbelow
        by_cases hold : id.index < (layout.stage count).size kind
        · exact ih (Nat.le_of_succ_le hcount) hold
        · obtain ⟨document, hdocument⟩ := exists_document (Nat.lt_of_succ_le hcount)
          obtain ⟨part, hpart, hholds⟩ := (h.document _ document hdocument).chain.exists_holds
            (Nat.le_of_not_lt hold) hbelow
          exact ⟨part, (h.isPart hdocument hpart).2, hholds⟩
  rw [← h.final] at hlt
  exact hreach set.size (Nat.le_refl _) hlt

theorem apart (hpart : set.IsPart layout part) (hother : set.IsPart layout other) :
    part.Apart other := by
  have hwithin := h.within hpart
  have hwithin' := h.within hother
  obtain ⟨document, hdocument, hmem⟩ := hpart
  obtain ⟨document', hdocument', hmem'⟩ := hother
  have hlt : part.document.index < set.size := (Array.getElem?_eq_some_iff.mp hdocument).choose
  have hlt' : other.document.index < set.size := (Array.getElem?_eq_some_iff.mp hdocument').choose
  rcases Nat.lt_trichotomy part.document.index other.document.index with hless | heq | hmore
  · exact .inr (.inl ((hwithin.2.2.trans (h.stage_grows hless (Nat.le_of_lt hlt'))).trans
      hwithin'.1))
  · rw [← heq] at hmem'
    have hpairwise := (h.document _ document hdocument).chain.pairwise (h.chain_ordinary hdocument)
    have hforward : (layout.parts part.document.index).Pairwise Part.Apart :=
      hpairwise.imp fun hpair => .inr (.inl hpair.1)
    have hbackward : (layout.parts part.document.index).Pairwise (flip Part.Apart) :=
      hpairwise.imp fun hpair => Or.inr (.inr hpair.1)
    exact List.Pairwise.forall_of_forall_of_flip (fun _ _ => .inl rfl) hforward hbackward hmem hmem'
  · exact .inr (.inr ((hwithin'.2.2.trans (h.stage_grows hmore (Nat.le_of_lt hlt))).trans
      hwithin.1))

theorem eq_of_holds (hpart : set.IsPart layout part) (hother : set.IsPart layout other)
    {kind : SymbolKind} {id : Id kind} (hholds : part.Holds id) (hholds' : other.Holds id) :
    part = other := by
  obtain ⟨hle, hlt⟩ := hholds
  obtain ⟨hle', hlt'⟩ := hholds'
  rcases h.apart hpart hother with heq | hbefore | hafter
  · exact heq
  · have := hbefore.size_le kind
    omega
  · have := hafter.size_le kind
    omega

end LaidOut

end SchemaSet

end SchemaBinding
