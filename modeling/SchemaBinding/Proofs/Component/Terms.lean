import SchemaBinding.Proofs.Outcome
import SchemaBinding.Error

namespace SchemaBinding

/-- What two readings are held to. -/
structure Terms where
  /-- Whether components are documented in the same words. -/
  documented : Prop := True
  /-- Whether the first reading may be the stricter one. -/
  eased : Prop := False

/-- The second reading is as permissive as the first, or more where the first may be stricter. -/
def Terms.Permits (terms : Terms) (permissive other : Bool) : Prop :=
  permissive = other ∨ terms.eased ∧ permissive = false

/-- Failures that differ at most in the source they quote. -/
inductive Error.Resembles : Error → Error → Prop
  | same (error : Error) : Resembles error error
  | malformed (flaw : Flaw) (fragment other : String) :
      Resembles (.malformed flaw fragment) (.malformed flaw other)

/-- Two results, the first of the reading that may be stricter. -/
inductive Ends {α β : Type} (terms : Terms) (related : α → β → Prop) :
    Except Error α → Except Error β → Prop
  | ok {value : α} {other : β} : related value other → Ends terms related (.ok value) (.ok other)
  | error {error failure : Error} : error.Resembles failure →
      Ends terms related (.error error) (.error failure)
  | eased {error : Error} {result : Except Error β} : terms.eased →
      Ends terms related (.error error) result

namespace Ends

variable {α β γ δ : Type} {terms : Terms} {related : α → β → Prop} {fine : γ → δ → Prop}
  {work : Except Error α} {other : Except Error β}

theorem fail (terms : Terms) (related : α → β → Prop) (error : Error) :
    Ends terms related (.error error) (.error error) :=
  .error (.same error)

theorem self {related : α → α → Prop} (terms : Terms) (h : ∀ value, related value value)
    (result : Except Error α) : Ends terms related result result := by
  cases result with
  | ok value => exact .ok (h value)
  | error error => exact .fail terms related error

theorem bind {next : α → Except Error γ} {next' : β → Except Error δ}
    (h : Ends terms related work other)
    (hnext : ∀ value value', related value value' → Ends terms fine (next value) (next' value')) :
    Ends terms fine (work >>= next) (other >>= next') := by
  cases h with
  | ok hvalue => exact hnext _ _ hvalue
  | error herror => exact .error herror
  | eased heased => exact .eased heased

theorem imp {loose : α → β → Prop} (h : Ends terms related work other)
    (himp : ∀ value value', related value value' → loose value value') :
    Ends terms loose work other := by
  cases h with
  | ok hvalue => exact .ok (himp _ _ hvalue)
  | error herror => exact .error herror
  | eased heased => exact .eased heased

theorem exists_ok {value : α} (h : Ends terms related (.ok value) other) :
    ∃ value', other = .ok value' ∧ related value value' := by
  cases h with
  | ok hvalue => exact ⟨_, rfl, hvalue⟩

theorem failed {error : Error} (h : Ends terms related (.error error) other)
    (next : β → Except Error δ) : Ends terms fine (.error error) (other >>= next) := by
  generalize hwork : Except.error error = work at h
  cases h with
  | ok hvalue => cases hwork
  | error herror =>
      cases hwork
      exact .error herror
  | eased heased =>
      cases hwork
      exact .eased heased

theorem concurs (h : Ends terms related work other) (hterms : ¬ terms.eased) :
    Concurs Error.Resembles related work other := by
  cases h with
  | ok hvalue => exact .ok hvalue
  | error herror => exact .error herror
  | eased heased => exact absurd heased hterms

end Ends

end SchemaBinding
