import SchemaBinding.Proofs.Component.Mention
import SchemaBinding.Proofs.Component.Part

namespace SchemaBinding

open Reading

def NamedMatches (pairing : Pairing) (named other : String × Symbol) : Prop :=
  named.1 = other.1 ∧ named.2.Matches pairing other.2

namespace Reading

variable {base : Base} {since : SymbolKind → Nat} {child other : Child}

theorem inStep_attributeGroup (h : child.InStep base other) (name : String) :
    InStep base since (fun pairing => pairing.id) (Schema.attributeGroup child name)
      (Schema.attributeGroup other name) := by
  apply inStep_read
  intro origin origin' horigin
  apply (h.places.asAttributes since (some name)).bind
  intro later items items' _ hitems
  apply (inStep_spanOf child.element other.element).bind
  intro last span span' hlast hspan
  apply inStep_addAttributeGroup
  intro pairing hwithin
  exact ⟨rfl, horigin.targetSpace, (hitems.mono hlast) pairing hwithin, hspan pairing hwithin⟩

theorem inStep_group (h : child.InStep base other) (name : String) :
    InStep base since (fun pairing => pairing.id) (Schema.group child name)
      (Schema.group other name) := by
  apply inStep_read
  intro origin origin' horigin
  apply (h.places.asGroup since (some name)).bind
  intro later particle particle' _ hparticle
  apply (inStep_spanOf child.element other.element).bind
  intro last span span' hlast hspan
  apply inStep_addGroup
  intro pairing hwithin
  exact ⟨rfl, horigin.targetSpace, (hparticle.mono hlast) pairing hwithin, hspan pairing hwithin⟩

theorem inStep_component (h : child.InStep base other) (name : String) (kind : SymbolKind) :
    InStep base since (fun pairing => pairing.id) (child.component name kind)
      (other.component name kind) := by
  cases kind with
  | element => exact h.places.asElement since none
  | «attribute» => exact h.places.asAttribute since none
  | type => exact h.places.asType since none
  | attributeGroup => exact inStep_attributeGroup h name
  | group => exact inStep_group h name

theorem Child.InStep.declares?_eq (h : child.InStep base other) :
    child.declares? = other.declares? := by
  rw [declares?, h.tag_eq, declares?]

theorem Child.InStep.directive?_eq (h : child.InStep base other) :
    child.directive? = other.directive? := by
  rw [directive?, h.tag_eq, h.element.resembles.plain "schemaLocation" (by decide),
    h.element.resembles.plain "namespace" (by decide), directive?]

theorem inStep_declared (h : child.InStep base other) :
    InStep base since (fun pairing => Option.Rel (NamedMatches pairing)) child.declared
      other.declared := by
  unfold Child.declared
  rw [h.declares?_eq, h.tag_eq]
  split
  · apply (inStep_required h.element.resembles (by decide)).bind_eq
    intro later name _
    exact (inStep_component h name _).map fun _ _ _ hid => .some ⟨rfl, .mk hid⟩
  · split
    · apply (inStep_required h.element.resembles (by decide)).bind_eq
      intro _ _ _
      exact inStep_pure fun _ _ => .none
    · exact inStep_pure fun _ _ => .none

end Reading

namespace Part

def Holds (part : Part) {kind : SymbolKind} (id : Id kind) : Prop :=
  part.before.size kind ≤ id.index ∧ id.index < part.after.size kind

def base (part other : Part) (documents : DocumentId → DocumentId → Prop) : Base where
  first := part.before
  second := other.before
  documents := documents

def pairing (part other : Part) (documents : DocumentId → DocumentId → Prop) : Pairing :=
  (part.base other documents).upTo part.after.size

variable {part other : Part} {documents : DocumentId → DocumentId → Prop}
  {origin origin' : Origin}

theorem stepsTo_of_declared (horigin : Origin.Beside (part.base other documents) origin origin')
    (hchild : part.child.InStep (part.base other documents) other.child)
    (hpart : part.child.declared origin part.before = .ok (part.named, part.after))
    (hother : other.child.declared origin' other.before = .ok (other.named, other.after)) :
    (part.base other documents).Abreast part.after other.after ∧
      Option.Rel (NamedMatches (part.pairing other documents)) part.named other.named := by
  have h := inStep_declared hchild origin origin' horigin part.before other.before .start
    fun _ => Nat.le_refl _
  rw [hpart, hother] at h
  cases h with
  | ok hsteps => exact ⟨hsteps.1, hsteps.2.2.2.here⟩

theorem grows_of_declared {child : Child} {element : Xml.Element} (hchild : child = .of element)
    {before after : Model} {named : Option (String × Symbol)}
    (h : child.declared origin before = .ok (named, after)) : before.Prefix after := by
  subst hchild
  have hstep := inStep_of { first := before, second := before, documents := Eq } element element
    (.refl _ element)
  have hsteps := inStep_declared hstep origin origin ⟨rfl, rfl, .inl rfl⟩ before
    before .start fun _ => Nat.le_refl _
  rw [h] at hsteps
  cases hsteps with
  | ok hsteps => exact hsteps.2.1

namespace Chain

variable {position : Nat} {first last : Model} {parts : List Part}

def Ordinary (parts : List Part) : Prop :=
  ∀ part ∈ parts, ∃ element, part.child = .of element

theorem grows (h : Chain origin position first parts last) (hparts : Ordinary parts) :
    first.Prefix last := by
  induction h with
  | nil => exact .refl _
  | cons hread _ ih =>
      obtain ⟨element, hchild⟩ := hparts _ List.mem_cons_self
      have hrest := ih fun part hpart => hparts part (List.mem_cons_of_mem _ hpart)
      exact (grows_of_declared hchild hread).trans hrest

theorem within (h : Chain origin position first parts last) (hparts : Ordinary parts)
    {part : Part} (hpart : part ∈ parts) :
    first.Prefix part.before ∧ part.before.Prefix part.after ∧ part.after.Prefix last ∧
      position ≤ part.position := by
  induction h with
  | nil => cases hpart
  | @cons position child before after last named rest hread hrest ih =>
      have hothers : Ordinary rest := fun part hmem => hparts part (List.mem_cons_of_mem _ hmem)
      obtain ⟨element, hchild⟩ := hparts _ List.mem_cons_self
      have hgrows := grows_of_declared hchild hread
      rcases List.mem_cons.mp hpart with rfl | hmem
      · exact ⟨.refl _, hgrows, hrest.grows hothers, Nat.le_refl _⟩
      · obtain ⟨hbefore, hown, hafter, hposition⟩ := ih hothers hmem
        exact ⟨hgrows.trans hbefore, hown, hafter, Nat.le_of_succ_le hposition⟩

theorem pairwise (h : Chain origin position first parts last) (hparts : Ordinary parts) :
    parts.Pairwise fun part other =>
      part.after.Prefix other.before ∧ part.position < other.position := by
  induction h with
  | nil => exact .nil
  | @cons position child before after last named rest hread hrest ih =>
      have hothers : Ordinary rest := fun part hmem => hparts part (List.mem_cons_of_mem _ hmem)
      apply List.Pairwise.cons _ (ih hothers)
      intro other hother
      obtain ⟨hbefore, _, _, hposition⟩ := hrest.within hothers hother
      exact ⟨hbefore, hposition⟩

theorem exists_holds (h : Chain origin position first parts last) {kind : SymbolKind} {id : Id kind}
    (hle : first.size kind ≤ id.index) (hlt : id.index < last.size kind) :
    ∃ part ∈ parts, part.Holds id := by
  induction h with
  | nil => omega
  | @cons position child before after last named rest hread _ ih =>
      by_cases hown : id.index < after.size kind
      · exact ⟨_, List.mem_cons_self, hle, hown⟩
      · obtain ⟨part, hpart, hholds⟩ := ih (Nat.le_of_not_lt hown) hlt
        exact ⟨part, List.mem_cons_of_mem _ hpart, hholds⟩

end Chain

end Part

end SchemaBinding
