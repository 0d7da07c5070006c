import SchemaBinding.Proofs.Outcome
import SchemaBinding.Proofs.Resolution.Simulation
import Mathlib.Logic.Relation

namespace SchemaBinding

open Relation (TransGen ReflTransGen)

/-- How an answer is worked out from those for the components it needs. -/
structure Rule (set : SchemaSet) (kind : SymbolKind) (α : Type) where
  apply : (Id kind → Except Error α) → Id kind → Except Error α
  Needs : Id kind → Id kind → Prop
  index_lt : ∀ {id next}, Needs id next → id.index < set.model.size kind
  absent : ∀ {answer id}, set.model.size kind ≤ id.index →
    apply answer id = .error (.absent kind id.index)
  congr : ∀ {first second id}, (∀ next, Needs id next → first next = second next) →
    apply first id = apply second id
  needed : ∀ {answer id value}, apply answer id = .ok value →
    ∀ next, Needs id next → ∃ other, answer next = .ok other

namespace Rule

variable {set : SchemaSet} {kind : SymbolKind} {α : Type} (rule : Rule set kind α)

/-- The answer for a component while others are unfinished. -/
def answerFrom (unfinished : List (Id kind)) (id : Id kind) : Except Error α :=
  if hopen : id ∈ unfinished then .error (set.cycle kind unfinished id)
  else if hlt : id.index < set.model.size kind then
    have := SchemaSet.unlisted_cons_lt hlt hopen
    rule.apply (fun next => answerFrom (id :: unfinished) next) id
  else .error (.absent kind id.index)
termination_by set.unlisted kind unfinished

def answer (id : Id kind) : Except Error α :=
  rule.answerFrom [] id

/-- What is unfinished needs the component that is asked for. -/
def Leads (unfinished : List (Id kind)) (id : Id kind) : Prop :=
  ∀ other ∈ unfinished, TransGen rule.Needs other id

variable {rule}

theorem answerFrom_of_mem {unfinished : List (Id kind)} {id : Id kind}
    (h : id ∈ unfinished) :
    rule.answerFrom unfinished id = .error (set.cycle kind unfinished id) := by
  rw [answerFrom, dif_pos h]

theorem answerFrom_of_not_mem {unfinished : List (Id kind)} {id : Id kind}
    (h : id ∉ unfinished) :
    rule.answerFrom unfinished id =
      rule.apply (fun next => rule.answerFrom (id :: unfinished) next) id := by
  rw [answerFrom, dif_neg h]
  split
  · rfl
  · rename_i hle
    exact (rule.absent (Nat.le_of_not_lt hle)).symm

theorem not_mem_of_answerFrom {unfinished : List (Id kind)} {id : Id kind} {value : α}
    (h : rule.answerFrom unfinished id = .ok value) : id ∉ unfinished := by
  intro hmem
  rw [answerFrom_of_mem hmem] at h
  cases h

/-- What a component with an answer needs has an answer, after the component itself. -/
theorem answerFrom_needed {unfinished : List (Id kind)} {id : Id kind} {value : α}
    (h : rule.answerFrom unfinished id = .ok value) (next : Id kind)
    (hneeds : rule.Needs id next) :
    ∃ other, rule.answerFrom (id :: unfinished) next = .ok other := by
  rw [answerFrom_of_not_mem (not_mem_of_answerFrom h)] at h
  exact rule.needed h next hneeds

theorem exists_answerFrom_of_transGen {unfinished : List (Id kind)} {id last : Id kind}
    {value : α} (h : rule.answerFrom unfinished id = .ok value)
    (hpath : TransGen rule.Needs id last) :
    ∃ more other, id ∈ more ∧ rule.answerFrom more last = .ok other := by
  induction hpath with
  | single hneeds =>
      obtain ⟨other, hother⟩ := answerFrom_needed h _ hneeds
      exact ⟨id :: unfinished, other, List.mem_cons_self, hother⟩
  | tail _ hneeds ih =>
      obtain ⟨more, other, hmem, hother⟩ := ih
      obtain ⟨final, hfinal⟩ := answerFrom_needed hother _ hneeds
      exact ⟨_ :: more, final, List.mem_cons_of_mem _ hmem, hfinal⟩

theorem not_transGen_self {unfinished : List (Id kind)} {id : Id kind} {value : α}
    (h : rule.answerFrom unfinished id = .ok value) : ¬ TransGen rule.Needs id id := by
  intro hcycle
  obtain ⟨more, other, hmem, hother⟩ := exists_answerFrom_of_transGen h hcycle
  exact not_mem_of_answerFrom hother hmem

/-- An answer stays when other components are unfinished, if it reaches none of them. -/
theorem answerFrom_of_unreached {unfinished : List (Id kind)} {id : Id kind} {value : α}
    (h : rule.answerFrom unfinished id = .ok value) {others : List (Id kind)}
    (hothers : ∀ other ∈ others, ¬ ReflTransGen rule.Needs id other) :
    rule.answerFrom others id = .ok value := by
  induction hroom : set.unlisted kind unfinished using Nat.strongRecOn
    generalizing unfinished id value others with
  | _ room ih =>
      have hacyclic := not_transGen_self h
      have hnew := not_mem_of_answerFrom h
      have hfree : id ∉ others := fun hmem => hothers id hmem .refl
      rw [answerFrom_of_not_mem hfree]
      rw [answerFrom_of_not_mem hnew] at h
      rw [← h]
      apply rule.congr
      intro next hneeds
      obtain ⟨other, hother⟩ := rule.needed h next hneeds
      rw [hother]
      have hless := SchemaSet.unlisted_cons_lt (rule.index_lt hneeds) hnew
      apply ih _ (hroom ▸ hless) hother _ rfl
      intro open_ hopen hreach
      rcases List.mem_cons.mp hopen with rfl | hmem
      · exact hacyclic (TransGen.head' hneeds hreach)
      · exact hothers open_ hmem (ReflTransGen.head hneeds hreach)

theorem answer_of_answerFrom {unfinished : List (Id kind)} {id : Id kind} {value : α}
    (h : rule.answerFrom unfinished id = .ok value) : rule.answer id = .ok value :=
  answerFrom_of_unreached h (by simp)

theorem answerFrom_of_leads {unfinished : List (Id kind)} {id : Id kind} {value : α}
    (h : rule.answer id = .ok value) (hleads : rule.Leads unfinished id) :
    rule.answerFrom unfinished id = .ok value := by
  apply answerFrom_of_unreached h
  intro other hother hreach
  exact not_transGen_self h (TransGen.trans_right hreach (hleads other hother))

theorem Leads.cons {unfinished : List (Id kind)} {id next : Id kind}
    (h : rule.Leads unfinished id) (hneeds : rule.Needs id next) :
    rule.Leads (id :: unfinished) next := by
  intro other hother
  rcases List.mem_cons.mp hother with rfl | hmem
  · exact .single hneeds
  · exact (h other hmem).tail hneeds

theorem Leads.tail {unfinished : List (Id kind)} {id next : Id kind}
    (h : rule.Leads unfinished id) (hneeds : rule.Needs id next) : rule.Leads unfinished next :=
  fun other hother => (h other hother).tail hneeds

theorem leads_nil (id : Id kind) : rule.Leads [] id := by
  intro other hother
  cases hother

/-! Answers made of answers. -/

theorem apply_answer {id : Id kind} {value : α} (h : rule.answer id = .ok value) :
    rule.apply rule.answer id = .ok value := by
  rw [answer, answerFrom_of_not_mem List.not_mem_nil] at h
  rw [← h]
  apply rule.congr
  intro next hneeds
  obtain ⟨other, hother⟩ := rule.needed h next hneeds
  rw [hother]
  exact answer_of_answerFrom hother

theorem answer_of_apply {id : Id kind} {value : α} (h : rule.apply rule.answer id = .ok value) :
    rule.answer id = .ok value := by
  rw [answer, answerFrom_of_not_mem List.not_mem_nil, ← h]
  apply rule.congr
  intro next hneeds
  obtain ⟨other, hother⟩ := rule.needed h next hneeds
  rw [hother]
  exact answerFrom_of_leads hother ((leads_nil id).cons hneeds)

/-- What a rule hands on from the answers that it needs holds of every answer. -/
theorem answer_induction {motive : Id kind → α → Prop}
    (step : ∀ id value, rule.apply rule.answer id = .ok value →
      (∀ next other, rule.Needs id next → rule.answer next = .ok other → motive next other) →
        motive id value)
    {id : Id kind} {value : α} (h : rule.answer id = .ok value) : motive id value := by
  have hall : ∀ unfinished id value, rule.answerFrom unfinished id = .ok value →
      motive id value := by
    intro unfinished
    induction hroom : set.unlisted kind unfinished using Nat.strongRecOn
      generalizing unfinished with
    | _ room ih =>
        intro id value hvalue
        apply step id value (apply_answer (answer_of_answerFrom hvalue))
        intro next other hneeds hother
        obtain ⟨found, hfound⟩ := answerFrom_needed hvalue next hneeds
        have heq := (answer_of_answerFrom hfound).symm.trans hother
        cases heq
        have hless := SchemaSet.unlisted_cons_lt (rule.index_lt hneeds)
          (not_mem_of_answerFrom hvalue)
        exact ih _ (hroom ▸ hless) (id :: unfinished) rfl next other hfound
  exact hall [] id value h

end Rule

end SchemaBinding
