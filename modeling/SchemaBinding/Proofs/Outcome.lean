import Mathlib.Data.List.Forall2

namespace SchemaBinding

theorem eq_of_ok {ε α : Type} {result : Except ε α} {first second : α}
    (h : result = .ok first) (h' : result = .ok second) : first = second :=
  Except.ok.inj (h.symm.trans h')

theorem bind_eq_ok_iff {ε α β : Type} {work : Except ε α} {next : α → Except ε β} {value : β} :
    work >>= next = .ok value ↔ ∃ middle, work = .ok middle ∧ next middle = .ok value := by
  cases work with
  | error error =>
      constructor
      · intro h
        cases h
      · rintro ⟨_, h, _⟩
        cases h
  | ok middle =>
      constructor
      · intro h
        exact ⟨middle, rfl, h⟩
      · rintro ⟨found, hfound, h⟩
        cases hfound
        exact h

theorem map_eq_ok_iff {ε α β : Type} {result : Except ε α} {f : α → β} {value : β} :
    f <$> result = .ok value ↔ ∃ found, result = .ok found ∧ value = f found := by
  cases result with
  | error error => exact iff_of_false nofun nofun
  | ok found =>
      change Except.ok (f found) = .ok value ↔ _
      simp [eq_comm]

theorem mapM_eq_ok_iff {ε α β : Type} {work : α → Except ε β} {items : List α}
    {parts : List β} :
    items.mapM work = .ok parts ↔
      List.Forall₂ (fun item part => work item = .ok part) items parts := by
  induction items generalizing parts with
  | nil =>
      rw [List.mapM_nil, List.forall₂_nil_left_iff]
      exact ⟨fun h => (Except.ok.inj h).symm, fun h => h ▸ rfl⟩
  | cons item rest ih =>
      simp only [List.mapM_cons, bind_eq_ok_iff, List.forall₂_cons_left_iff, ih]
      constructor
      · rintro ⟨part, hpart, others, hothers, heq⟩
        exact ⟨part, others, hpart, hothers, (Except.ok.inj heq).symm⟩
      · rintro ⟨part, others, hpart, hothers, rfl⟩
        exact ⟨part, hpart, others, hothers, rfl⟩

theorem eq_ok_of_toOption {ε α : Type} {result : Except ε α} {value : α}
    (h : result.toOption = some value) : result = .ok value := by
  cases result with
  | error error => cases h
  | ok found => exact congrArg Except.ok (Option.some.inj h)

theorem exists_ok_of_map {ε α : Type} {result : Except ε α} {Known : α → Prop}
    [DecidablePred Known]
    (h : (result.toOption.map fun value => decide (Known value)) = some true) :
    ∃ value, result = .ok value ∧ Known value := by
  cases result with
  | error error => cases h
  | ok value => exact ⟨value, rfl, of_decide_eq_true (Option.some.inj h)⟩

theorem exists_ok_of_bind {ε α β : Type} {first : Except ε α} {second : Except ε β}
    {Known : α → β → Prop} [∀ value other, Decidable (Known value other)]
    (h : (first.toOption.bind fun value => second.toOption.map fun other =>
      decide (Known value other)) = some true) :
    ∃ value other, first = .ok value ∧ second = .ok other ∧ Known value other := by
  cases first with
  | error error => cases h
  | ok value =>
      cases second with
      | error error => cases h
      | ok other => exact ⟨value, other, rfl, rfl, of_decide_eq_true (Option.some.inj h)⟩

/-- Two results that are both values that are related, or both failures that are. -/
inductive Concurs {ε α β : Type} (fails : ε → ε → Prop) (related : α → β → Prop) :
    Except ε α → Except ε β → Prop
  | ok {value : α} {other : β} : related value other → Concurs fails related (.ok value) (.ok other)
  | error {error failure : ε} : fails error failure →
      Concurs fails related (.error error) (.error failure)

namespace Concurs

variable {ε α β γ δ : Type} {fails : ε → ε → Prop} {related : α → β → Prop} {fine : γ → δ → Prop}

theorem bind {work : Except ε α} {other : Except ε β} {next : α → Except ε γ}
    {next' : β → Except ε δ} (h : Concurs fails related work other)
    (hnext : ∀ value value', related value value' →
      Concurs fails fine (next value) (next' value')) :
    Concurs fails fine (work >>= next) (other >>= next') := by
  cases h with
  | ok hvalue => exact hnext _ _ hvalue
  | error herror => exact .error herror

theorem map {work : Except ε α} {other : Except ε β} {f : α → γ} {g : β → δ}
    (h : Concurs fails related work other)
    (hmap : ∀ value value', related value value' → fine (f value) (g value')) :
    Concurs fails fine (do return f (← work)) (do return g (← other)) :=
  bind h fun _ _ hvalue => .ok (hmap _ _ hvalue)

end Concurs

def outcome {ε σ α : Type} (result : Except ε α) (state : σ) : EStateM.Result ε σ α :=
  match result with
  | .ok value => .ok value state
  | .error error => .error error state

theorem eq_ok_of_outcome {ε σ α : Type} {result : Except ε α} {state after : σ} {value : α}
    (h : outcome result state = .ok value after) : result = .ok value ∧ state = after := by
  cases result with
  | error error => cases h
  | ok found =>
      cases h
      exact ⟨rfl, rfl⟩

/-- The state that work leaves behind, also when it fails. -/
def stateAfter {ε σ α : Type} : EStateM.Result ε σ α → σ
  | .ok _ state => state
  | .error _ state => state

theorem stateAfter_outcome {ε σ α : Type} (result : Except ε α) (state : σ) :
    stateAfter (outcome result state) = state := by
  cases result <;> rfl

def resultOf {ε σ α : Type} : EStateM.Result ε σ α → Except ε α
  | .ok value _ => .ok value
  | .error error _ => .error error

theorem resultOf_outcome {ε σ α : Type} (result : Except ε α) (state : σ) :
    resultOf (outcome result state) = result := by
  cases result <;> rfl

/-- What the first step establishes and the next one keeps holds at the end. -/
theorem stateAfter_bind {ε σ α β : Type} (Holds : σ → Prop) {work : EStateM ε σ α}
    {next : α → EStateM ε σ β} {before : σ} (hwork : Holds (stateAfter (work before)))
    (hnext : ∀ value between, Holds between → Holds (stateAfter (next value between))) :
    Holds (stateAfter ((work >>= next) before)) := by
  simp only [bind, EStateM.bind]
  cases hresult : work before with
  | error error state =>
      rw [hresult] at hwork
      exact hwork
  | ok value between =>
      rw [hresult] at hwork
      exact hnext value between hwork

theorem run_bind_eq_ok_iff {ε σ α β : Type} {work : EStateM ε σ α} {next : α → EStateM ε σ β}
    {before after : σ} {value : β} :
    (work >>= next) before = .ok value after ↔
      ∃ middle between, work before = .ok middle between ∧
        next middle between = .ok value after := by
  cases hwork : work before with
  | error error state =>
      constructor
      · intro h
        simp only [bind, EStateM.bind, hwork] at h
        cases h
      · rintro ⟨_, _, h, _⟩
        cases h
  | ok middle between =>
      simp only [bind, EStateM.bind, hwork]
      constructor
      · intro h
        exact ⟨middle, between, rfl, h⟩
      · rintro ⟨_, _, heq, h⟩
        cases heq
        exact h

/-- Two results with states that are related, both values that are, or both failures. -/
inductive Runs {ε σ τ α β : Type} (related : α → β → Prop) (states : σ → τ → Prop) :
    EStateM.Result ε σ α → EStateM.Result ε τ β → Prop
  | ok {value : α} {other : β} {state : σ} {state' : τ} : related value other →
      states state state' → Runs related states (.ok value state) (.ok other state')
  | error {error failure : ε} {state : σ} {state' : τ} : states state state' →
      Runs related states (.error error state) (.error failure state')

theorem Runs.bind {ε σ τ α β γ δ : Type} {related : α → β → Prop} {fine : γ → δ → Prop}
    {states : σ → τ → Prop} {work : EStateM ε σ α} {other : EStateM ε τ β}
    {next : α → EStateM ε σ γ} {next' : β → EStateM ε τ δ} {before : σ} {before' : τ}
    (h : Runs related states (work before) (other before'))
    (hnext : ∀ value value' state state', related value value' → states state state' →
      Runs fine states (next value state) (next' value' state')) :
    Runs fine states ((work >>= next) before) ((other >>= next') before') := by
  simp only [Bind.bind, EStateM.bind]
  generalize work before = result at h ⊢
  generalize other before' = result' at h ⊢
  cases h with
  | ok hvalue hstate => exact hnext _ _ _ _ hvalue hstate
  | error hstate => exact .error hstate

theorem Runs.exists_ok {ε σ τ α β : Type} {related : α → β → Prop} {states : σ → τ → Prop}
    {value : α} {state : σ} {result : EStateM.Result ε τ β}
    (h : Runs related states (.ok value state) result) :
    ∃ value' state', result = .ok value' state' ∧ related value value' ∧ states state state' := by
  cases h with
  | ok hvalue hstate => exact ⟨_, _, rfl, hvalue, hstate⟩

theorem Concurs.runs {ε σ τ α β : Type} {fails : ε → ε → Prop} {related : α → β → Prop}
    {states : σ → τ → Prop} {result : Except ε α} {result' : Except ε β}
    (h : Concurs fails related result result') {state : σ} {state' : τ}
    (hstate : states state state') :
    Runs related states (outcome result state) (outcome result' state') := by
  cases h with
  | ok hvalue => exact .ok hvalue hstate
  | error _ => exact .error hstate

end SchemaBinding
