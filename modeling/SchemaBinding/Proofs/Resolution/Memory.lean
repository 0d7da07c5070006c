import SchemaBinding.Proofs.Resolution.Rules

namespace SchemaBinding

def Table.Holds {kind : SymbolKind} {α : Type} (table : Table (Id kind) α)
    (answer : Id kind → Except Error α) : Prop :=
  ∀ id value, table.get? id = some value → answer id = .ok value

theorem Table.holds_nil {kind : SymbolKind} {α : Type} (answer : Id kind → Except Error α) :
    Table.Holds [] answer := by
  intro id value h
  cases h

theorem Table.Holds.put {kind : SymbolKind} {α : Type} {table : Table (Id kind) α}
    {answer : Id kind → Except Error α} (h : table.Holds answer) {id : Id kind} {value : α}
    (hvalue : answer id = .ok value) : (table.put id value).Holds answer := by
  intro other found hfound
  by_cases heq : other = id
  · subst heq
    rw [Table.get?_put_self] at hfound
    cases hfound
    exact hvalue
  · rw [Table.get?_put_other table value heq] at hfound
    exact h other found hfound

namespace Memo

/-- What is remembered are answers by definition. -/
structure Sound (set : SchemaSet) (memo : Memo) : Prop where
  elementTargets : memo.elementTargets.Holds set.answers.elementTarget
  attributeTargets : memo.attributeTargets.Holds set.answers.attributeTarget
  elementTypes : memo.elementTypes.Holds set.answers.elementType
  attributeTypes : memo.attributeTypes.Holds set.answers.attributeType
  scalars : memo.scalars.Holds set.answers.scalar
  contents : memo.contents.Holds set.answers.content
  attributeGroups : memo.attributeGroups.Holds set.answers.attributes
  groups : memo.groups.Holds set.answers.members

theorem sound_empty (set : SchemaSet) : Sound set {} where
  elementTargets := Table.holds_nil _
  attributeTargets := Table.holds_nil _
  elementTypes := Table.holds_nil _
  attributeTypes := Table.holds_nil _
  scalars := Table.holds_nil _
  contents := Table.holds_nil _
  attributeGroups := Table.holds_nil _
  groups := Table.holds_nil _

theorem Sound.unfinished {set : SchemaSet} {memo : Memo} (h : memo.Sound set)
    (unfinished : Unfinished) : Sound set { memo with unfinished := unfinished } where
  elementTargets := h.elementTargets
  attributeTargets := h.attributeTargets
  elementTypes := h.elementTypes
  attributeTypes := h.attributeTypes
  scalars := h.scalars
  contents := h.contents
  attributeGroups := h.attributeGroups
  groups := h.groups

end Memo

/-- A shelf remembers answers of one sort and touches nothing else. -/
structure Shelf.Keeps {kind : SymbolKind} {α : Type} (set : SchemaSet) (shelf : Shelf kind α)
    (answer : Id kind → Except Error α) : Prop where
  holds : ∀ {memo : Memo}, memo.Sound set → (shelf.view memo).Holds answer
  sound : ∀ {memo : Memo} {table : Table (Id kind) α}, memo.Sound set → table.Holds answer →
    (shelf.update memo table).Sound set
  unfinished : ∀ (memo : Memo) (table : Table (Id kind) α),
    (shelf.update memo table).unfinished = memo.unfinished

namespace Shelf

variable (set : SchemaSet)

theorem keeps_elementTargets : elementTargets.Keeps set set.answers.elementTarget where
  holds h := h.elementTargets
  sound h htable := { h with elementTargets := htable }
  unfinished _ _ := rfl

theorem keeps_attributeTargets : attributeTargets.Keeps set set.answers.attributeTarget where
  holds h := h.attributeTargets
  sound h htable := { h with attributeTargets := htable }
  unfinished _ _ := rfl

theorem keeps_elementTypes : elementTypes.Keeps set set.answers.elementType where
  holds h := h.elementTypes
  sound h htable := { h with elementTypes := htable }
  unfinished _ _ := rfl

theorem keeps_attributeTypes : attributeTypes.Keeps set set.answers.attributeType where
  holds h := h.attributeTypes
  sound h htable := { h with attributeTypes := htable }
  unfinished _ _ := rfl

theorem keeps_scalars : scalars.Keeps set set.answers.scalar where
  holds h := h.scalars
  sound h htable := { h with scalars := htable }
  unfinished _ _ := rfl

theorem keeps_contents : contents.Keeps set set.answers.content where
  holds h := h.contents
  sound h htable := { h with contents := htable }
  unfinished _ _ := rfl

theorem keeps_attributeGroups : attributeGroups.Keeps set set.answers.attributes where
  holds h := h.attributeGroups
  sound h htable := { h with attributeGroups := htable }
  unfinished _ _ := rfl

theorem keeps_groups : groups.Keeps set set.answers.members where
  holds h := h.groups
  sound h htable := { h with groups := htable }
  unfinished _ _ := rfl

end Shelf

/-- A trail is a place for a list. -/
structure Trail.Lawful {kind : SymbolKind} (trail : Trail kind) : Prop where
  view_update : ∀ unfinished ids, trail.view (trail.update unfinished ids) = ids
  update_update : ∀ unfinished ids others,
    trail.update (trail.update unfinished ids) others = trail.update unfinished others
  update_view : ∀ unfinished, trail.update unfinished (trail.view unfinished) = unfinished

namespace Trail

theorem lawful_scalars : scalars.Lawful := ⟨fun _ _ => rfl, fun _ _ _ => rfl, fun _ => rfl⟩

theorem lawful_contents : contents.Lawful := ⟨fun _ _ => rfl, fun _ _ _ => rfl, fun _ => rfl⟩

theorem lawful_attributeGroups : attributeGroups.Lawful :=
  ⟨fun _ _ => rfl, fun _ _ _ => rfl, fun _ => rfl⟩

theorem lawful_groups : groups.Lawful := ⟨fun _ _ => rfl, fun _ _ _ => rfl, fun _ => rfl⟩

theorem Lawful.unfinished_pop {kind : SymbolKind} {trail : Trail kind} (h : trail.Lawful)
    {id : Id kind} {memo next : Memo}
    (hnext : next.unfinished = (trail.push id memo).unfinished) :
    (trail.pop next).unfinished = memo.unfinished := by
  simp only [pop, ids, hnext, push, h.view_update, h.update_update, List.tail_cons]
  exact h.update_view memo.unfinished

end Trail

/-! Work that agrees with definitions. -/

/-- From a sound memo with the given components unfinished, the work comes to the result and
leaves such a memo. -/
def Agrees {α : Type} (set : SchemaSet) (unfinished : Unfinished) (work : Resolving α)
    (result : Except Error α) : Prop :=
  ∀ memo : Memo, memo.Sound set → memo.unfinished = unfinished →
    ∃ next : Memo, next.Sound set ∧ next.unfinished = unfinished ∧
      work memo = outcome result next

def agreement (set : SchemaSet) (unfinished : Unfinished) : Simulation Resolving where
  Follows := Agrees set unfinished
  done value memo hsound hunfinished := ⟨memo, hsound, hunfinished, rfl⟩
  failed error memo hsound hunfinished := ⟨memo, hsound, hunfinished, rfl⟩
  sequenced := by
    intro α β work result next other hwork hnext memo hsound hunfinished
    obtain ⟨middle, hmiddle, hstill, heq⟩ := hwork memo hsound hunfinished
    cases result with
    | error error =>
        refine ⟨middle, hmiddle, hstill, ?_⟩
        simp only [bind, EStateM.bind, heq, outcome, Except.bind]
    | ok value =>
        obtain ⟨last, hlast, hfinal, hwork⟩ := hnext value rfl middle hmiddle hstill
        refine ⟨last, hlast, hfinal, ?_⟩
        simp only [bind, EStateM.bind, heq, outcome, Except.bind]
        exact hwork

namespace Resolving

variable {set : SchemaSet} {kind : SymbolKind} {α : Type} {unfinished : Unfinished}

theorem agrees_given (result : Except Error α) : Agrees set unfinished (given result) result := by
  have h := (agreement set unfinished).follows_given result
  rw [given_eq] at h
  exact h

theorem remembered_eq (shelf : Shelf kind α) (id : Id kind) (work : Resolving α) (memo : Memo) :
    remembered shelf id work memo =
      match (shelf.view memo).get? id with
      | some value => .ok value memo
      | none =>
          match work memo with
          | .ok value next => .ok value (shelf.update next ((shelf.view next).put id value))
          | .error error next => .error error next := by
  change (match (shelf.view memo).get? id with
    | some value => (return value : Resolving α)
    | none => do
        let value ← work
        remember shelf id value
        return value) memo = _
  cases (shelf.view memo).get? id with
  | some value => rfl
  | none =>
      simp only [bind, EStateM.bind]
      cases work memo <;> rfl

/-- Remembering changes nothing if the work would come to the answer, and if what is remembered
would be found by the work. -/
theorem agrees_remembered {shelf : Shelf kind α} {answer : Id kind → Except Error α}
    (hkeeps : shelf.Keeps set answer) {id : Id kind} {work : Resolving α}
    {result : Except Error α} (hwork : Agrees set unfinished work result)
    (hanswer : ∀ value, answer id = .ok value ↔ result = .ok value) :
    Agrees set unfinished (remembered shelf id work) result := by
  intro memo hsound hunfinished
  cases hfound : (shelf.view memo).get? id with
  | some value =>
      have hresult := (hanswer value).mp (hkeeps.holds hsound id value hfound)
      refine ⟨memo, hsound, hunfinished, ?_⟩
      rw [remembered_eq, hfound, hresult]
      rfl
  | none =>
      obtain ⟨next, hnext, hstill, heq⟩ := hwork memo hsound hunfinished
      rw [remembered_eq, hfound, heq]
      cases result with
      | error error => exact ⟨next, hnext, hstill, rfl⟩
      | ok value =>
          have hvalue := (hanswer value).mpr rfl
          refine ⟨shelf.update next ((shelf.view next).put id value), ?_, ?_, rfl⟩
          · exact hkeeps.sound hnext ((hkeeps.holds hnext).put hvalue)
          · rw [hkeeps.unfinished]
            exact hstill

/-- A guarded piece of work is refused for an unfinished component, and else done with the
component unfinished. -/
theorem agrees_guarded {trail : Trail kind} (htrail : trail.Lawful) {id : Id kind}
    {work : Resolving α} {result : Except Error α}
    (hopen : id ∈ trail.view unfinished →
      result = .error (set.cycle kind (trail.view unfinished) id))
    (hwork : id ∉ trail.view unfinished →
      Agrees set (trail.update unfinished (id :: trail.view unfinished)) work result) :
    Agrees set unfinished (guarded set trail id work) result := by
  intro memo hsound hunfinished
  subst hunfinished
  by_cases hmem : id ∈ trail.ids memo
  · refine ⟨memo, hsound, rfl, ?_⟩
    rw [hopen hmem, guarded, if_pos hmem]
    rfl
  · obtain ⟨next, hnext, hstill, heq⟩ := hwork hmem (trail.push id memo)
      (hsound.unfinished _) rfl
    refine ⟨trail.pop next, hnext.unfinished _, htrail.unfinished_pop hstill, ?_⟩
    rw [guarded, if_neg hmem, heq]
    cases result <;> rfl

/-- Answers by a rule are the answers by definition, if the rule in the monad agrees with the
plain one and the components below are asked for while `ready` holds. -/
theorem agrees_settleWithin {rule : Rule set kind α} {shelf : Shelf kind α}
    {trail : Trail kind} (hkeeps : shelf.Keeps set rule.answer) (htrail : trail.Lawful)
    {work : (Id kind → Resolving α) → Id kind → Resolving α} {ready : Unfinished → Prop}
    (hready : ∀ unfinished ids, ready unfinished → ready (trail.update unfinished ids))
    (hwork : ∀ unfinished ask answer id, ready unfinished →
      (∀ next, rule.Needs id next → Agrees set unfinished (ask next) (answer next)) →
        Agrees set unfinished (work ask id) (rule.apply answer id))
    (levels : Nat) {unfinished : Unfinished} (id : Id kind) (hstart : ready unfinished)
    (hlevels : set.unlisted kind (trail.view unfinished) < levels)
    (hleads : rule.Leads (trail.view unfinished) id) :
    Agrees set unfinished (settleWithin set shelf trail work levels id)
      (rule.answerFrom (trail.view unfinished) id) := by
  induction levels generalizing unfinished id with
  | zero => exact absurd hlevels (Nat.not_lt_zero _)
  | succ levels ih =>
      apply agrees_remembered hkeeps
      · apply agrees_guarded htrail Rule.answerFrom_of_mem
        intro hnew
        rw [Rule.answerFrom_of_not_mem hnew]
        apply hwork _ _ _ id (hready _ _ hstart)
        intro next hneeds
        -- one level is spent on one more unfinished component, so enough of them are left
        have hless := SchemaSet.unlisted_cons_lt (rule.index_lt hneeds) hnew
        have hview := htrail.view_update unfinished (id :: trail.view unfinished)
        have hnext := ih next (hready unfinished (id :: trail.view unfinished) hstart)
          (by rw [hview]; omega) (by rw [hview]; exact hleads.cons hneeds)
        rw [hview] at hnext
        exact hnext
      · intro value
        constructor
        · intro hanswer
          exact Rule.answerFrom_of_leads hanswer hleads
        · exact Rule.answer_of_answerFrom

theorem agrees_levels (rule : Rule set kind α) (ready : Unfinished → Prop)
    {shelf : Shelf kind α} {trail : Trail kind} (hkeeps : shelf.Keeps set rule.answer)
    (htrail : trail.Lawful) {work : (Id kind → Resolving α) → Id kind → Resolving α}
    (hready : ∀ unfinished ids, ready unfinished → ready (trail.update unfinished ids))
    (hwork : ∀ unfinished ask answer id, ready unfinished →
      (∀ next, rule.Needs id next → Agrees set unfinished (ask next) (answer next)) →
        Agrees set unfinished (work ask id) (rule.apply answer id))
    (hstart : ready unfinished) (hnone : trail.view unfinished = []) {levels : Nat}
    (hlevels : set.model.size kind < levels) (id : Id kind) :
    Agrees set unfinished (settleWithin set shelf trail work levels id) (rule.answer id) := by
  have hunlisted : set.unlisted kind (trail.view unfinished) < levels :=
    Nat.lt_of_le_of_lt (set.unlisted_le _) hlevels
  have hleads : rule.Leads (trail.view unfinished) id := by
    rw [hnone]
    exact Rule.leads_nil id
  have h := agrees_settleWithin hkeeps htrail hready hwork levels id hstart hunlisted hleads
  rw [hnone] at h
  exact h

end Resolving

end SchemaBinding
