import SchemaBinding.Proofs.Component.Match
import SchemaBinding.Proofs.Component.Terms

namespace SchemaBinding

/-- Every number below the size of a model stands for the same in another. -/
structure Model.Prefix (first second : Model) : Prop where
  size_le : ∀ kind, first.size kind ≤ second.size kind
  component? : ∀ {kind : SymbolKind} (id : Id kind), id.index < first.size kind →
    second.component? id = first.component? id

namespace Model.Prefix

theorem refl (model : Model) : model.Prefix model :=
  ⟨fun _ => Nat.le_refl _, fun _ _ => rfl⟩

theorem trans {first second third : Model} (h : first.Prefix second) (h' : second.Prefix third) :
    first.Prefix third where
  size_le kind := Nat.le_trans (h.size_le kind) (h'.size_le kind)
  component? {kind} id hlt := by
    rw [h'.component? id (Nat.lt_of_lt_of_le hlt (h.size_le kind)), h.component? id hlt]

theorem push (model : Model) {kind : SymbolKind} (component : Component kind) :
    model.Prefix (model.push component) where
  size_le := model.size_le_push component
  component? _ hlt := component?_push_of_lt component hlt

theorem component?_of_some {first second : Model} (h : first.Prefix second) {kind : SymbolKind}
    {id : Id kind} {component : Component kind} (hsome : first.component? id = some component) :
    second.component? id = some component := by
  rw [h.component? id (index_lt_of_component? hsome), hsome]

end Model.Prefix

/-- Where two models start from, which documents of theirs are the same, and how far. -/
structure Base where
  first : Model
  second : Model
  documents : DocumentId → DocumentId → Prop
  terms : Terms := {}

namespace Base

variable (base : Base)

def upTo (limit : SymbolKind → Nat) : Pairing where
  id {kind} a b := base.first.size kind ≤ a.index ∧ a.index < limit kind ∧
    b.index + base.first.size kind = a.index + base.second.size kind
  document := base.documents
  documented := base.terms.documented

/-- What holds under every pairing of all that was gained, and perhaps of more. -/
def Holds (limit : SymbolKind → Nat) (holds : Pairing → Prop) : Prop :=
  ∀ pairing : Pairing, (base.upTo limit).Within pairing → holds pairing

inductive Abreast : Model → Model → Prop
  | start : Abreast base.first base.second
  | add {first second : Model} {kind : SymbolKind} {component other : Component kind} :
      Abreast first second →
        base.Holds first.size (fun pairing => component.Matches pairing other) →
          Abreast (first.push component) (second.push other)

variable {base} {limit later : SymbolKind → Nat}

theorem upTo_within (h : ∀ kind, limit kind ≤ later kind) :
    (base.upTo limit).Within (base.upTo later) where
  id {kind _ _} hpaired :=
    ⟨hpaired.1, Nat.lt_of_lt_of_le hpaired.2.1 (h kind), hpaired.2.2⟩
  document h := h
  documented h := h

namespace Holds

variable {holds fine : Pairing → Prop}

theorem mono (h : base.Holds limit holds) (hlater : ∀ kind, limit kind ≤ later kind) :
    base.Holds later holds :=
  fun pairing hwithin => h pairing ((upTo_within hlater).trans hwithin)

theorem imp (h : base.Holds limit holds) (himp : ∀ pairing, holds pairing → fine pairing) :
    base.Holds limit fine :=
  fun pairing hwithin => himp pairing (h pairing hwithin)

theorem here (h : base.Holds limit holds) : holds (base.upTo limit) :=
  h _ (.refl _)

end Holds

namespace Abreast

variable {first second : Model}

theorem size_eq (h : base.Abreast first second) (kind : SymbolKind) :
    second.size kind + base.first.size kind = first.size kind + base.second.size kind := by
  induction h with
  | start => exact Nat.add_comm _ _
  | @add first second added component other _ _ ih =>
      by_cases heq : kind = added
      · subst heq
        rw [Model.size_push_self, Model.size_push_self]
        omega
      · rw [Model.size_push_other _ _ heq, Model.size_push_other _ _ heq]
        exact ih

theorem prefix_first (h : base.Abreast first second) : base.first.Prefix first := by
  induction h with
  | start => exact .refl _
  | add _ _ ih => exact ih.trans (.push _ _)

/-- A component that was gained, its counterpart, and the models they were added to. -/
theorem exists_stage (h : base.Abreast first second) {kind : SymbolKind} {a b : Id kind}
    (hpaired : (base.upTo first.size).id a b) :
    ∃ (stage other : Model) (component counterpart : Component kind),
      base.Abreast stage other ∧ stage.Prefix first ∧ other.Prefix second ∧
      stage.size kind = a.index ∧ first.component? a = some component ∧
      second.component? b = some counterpart ∧
      base.Holds stage.size fun pairing => component.Matches pairing counterpart := by
  induction h with
  | start =>
      obtain ⟨hle, hlt, _⟩ := hpaired
      omega
  | @add first second added component other hbefore hmatches ih =>
      have hsize := hbefore.size_eq kind
      obtain ⟨hle, hlt, hoffset⟩ := hpaired
      by_cases hold : a.index < first.size kind
      · obtain ⟨stage, stage', found, counterpart, hstage, hfirst, hsecond, heq, hfound,
          hcounterpart, hall⟩ := ih ⟨hle, hold, hoffset⟩
        exact ⟨stage, stage', found, counterpart, hstage, hfirst.trans (.push _ _),
          hsecond.trans (.push _ _), heq, (Model.Prefix.push _ _).component?_of_some hfound,
          (Model.Prefix.push _ _).component?_of_some hcounterpart, hall⟩
      · by_cases hkind : kind = added
        · subst hkind
          rw [Model.size_push_self] at hlt
          have ha : a = ⟨first.size kind⟩ := Id.eq_of_index (by simp only; omega)
          have hb : b = ⟨second.size kind⟩ := Id.eq_of_index (by simp only; omega)
          subst ha hb
          exact ⟨first, second, component, other, hbefore, .push _ _, .push _ _, rfl,
            Model.component?_push_self _ _, Model.component?_push_self _ _, hmatches⟩
        · rw [Model.size_push_other _ _ hkind] at hlt
          omega

end Abreast

end Base

end SchemaBinding
