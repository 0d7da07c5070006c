import SchemaBinding.Proofs.Resolution.Memory

namespace SchemaBinding

namespace Resolving

variable (set : SchemaSet) (unfinished : Unfinished)

theorem agrees_elementTarget (id : ElementId) :
    Agrees set unfinished (elementTarget set id) (set.answers.elementTarget id) :=
  agrees_remembered (Shelf.keeps_elementTargets set) (agrees_given _) fun _ => Iff.rfl

theorem agrees_attributeTarget (id : AttributeId) :
    Agrees set unfinished (attributeTarget set id) (set.answers.attributeTarget id) :=
  agrees_remembered (Shelf.keeps_attributeTargets set) (agrees_given _) fun _ => Iff.rfl

theorem agrees_elementType (id : ElementId) :
    Agrees set unfinished (elementType set id) (set.answers.elementType id) := by
  apply agrees_remembered (Shelf.keeps_elementTypes set) ?_ fun _ => Iff.rfl
  apply (agreement set unfinished).sequenced (agrees_elementTarget set unfinished id)
  intro target _
  exact agrees_given (set.targetType target)

theorem agrees_attributeType (id : AttributeId) :
    Agrees set unfinished (attributeType set id) (set.answers.attributeType id) := by
  apply agrees_remembered (Shelf.keeps_attributeTypes set) ?_ fun _ => Iff.rfl
  apply (agreement set unfinished).sequenced (agrees_attributeTarget set unfinished id)
  intro target _
  exact agrees_given (set.targetType target)

theorem agrees_elementName (id : ElementId) :
    Agrees set unfinished (elementName set id) (set.answers.elementName id) :=
  (agreement set unfinished).follows_map _ (agrees_elementTarget set unfinished id)

variable {set unfinished}

theorem agrees_scalarLevels (hnone : unfinished.scalars = []) {levels : Nat}
    (hlevels : set.model.size .type < levels) (id : TypeId) :
    Agrees set unfinished (settleWithin set .scalars .scalars (Rules.scalar set) levels id)
      (set.answers.scalar id) := by
  apply agrees_levels set.scalarRule (fun _ => True) (Shelf.keeps_scalars set)
    Trail.lawful_scalars (fun _ _ _ => trivial) ?_ trivial hnone hlevels
  intro others ask answer id _ hask
  exact Rules.follows_scalar set (agreement set others) hask

theorem agrees_typeScalar (hnone : unfinished.scalars = []) (id : TypeId) :
    Agrees set unfinished (typeScalar set id) (set.answers.scalar id) :=
  agrees_scalarLevels hnone (Nat.lt_succ_self _) id

theorem agrees_scalarOf (hnone : unfinished.scalars = []) (target : TypeTarget) :
    Agrees set unfinished (scalarOf set target) (Rules.scalarAt set.answers.scalar target) :=
  Rules.follows_scalarAt (agreement set unfinished) fun next _ => agrees_typeScalar hnone next

theorem agrees_attributesLevels (hnone : unfinished.attributeGroups = []) {levels : Nat}
    (hlevels : set.model.size .attributeGroup < levels) (id : AttributeGroupId) :
    Agrees set unfinished
      (settleWithin set .attributeGroups .attributeGroups (Rules.attributes set) levels id)
      (set.answers.attributes id) := by
  apply agrees_levels set.attributesRule (fun _ => True)
    (Shelf.keeps_attributeGroups set) Trail.lawful_attributeGroups (fun _ _ _ => trivial) ?_
    trivial hnone hlevels
  intro others ask answer id _ hask
  exact Rules.follows_attributes set (agreement set others) hask

theorem agrees_expandAttributeGroup (hnone : unfinished.attributeGroups = [])
    (id : AttributeGroupId) :
    Agrees set unfinished (expandAttributeGroup set id) (set.answers.attributes id) :=
  agrees_attributesLevels hnone (Nat.lt_succ_self _) id

theorem agrees_membersLevels (hnone : unfinished.groups = []) {levels : Nat}
    (hlevels : set.model.size .group < levels) (id : GroupId) :
    Agrees set unfinished
      (settleWithin set .groups .groups (Rules.members set (elementName set)) levels id)
      (set.answers.members id) := by
  apply agrees_levels set.membersRule (fun _ => True) (Shelf.keeps_groups set)
    Trail.lawful_groups (fun _ _ _ => trivial) ?_ trivial hnone hlevels
  intro others ask answer id _ hask
  exact Rules.follows_members set (agreement set others) (agrees_elementName set others) hask

theorem agrees_expandGroup (hnone : unfinished.groups = []) (id : GroupId) :
    Agrees set unfinished (expandGroup set id) (set.answers.members id) :=
  agrees_membersLevels hnone (Nat.lt_succ_self _) id

def OnlyContents (unfinished : Unfinished) : Prop :=
  unfinished.scalars = [] ∧ unfinished.attributeGroups = [] ∧ unfinished.groups = []

theorem serves_answersWith (h : OnlyContents unfinished) (ask : TypeId → Resolving Content)
    (content : TypeId → Except Error Content) :
    (agreement set unfinished).Serves (answersWith set ask) (set.answersWith content) where
  elementTarget := agrees_elementTarget set unfinished
  elementType := agrees_elementType set unfinished
  attributeTarget := agrees_attributeTarget set unfinished
  attributeType := agrees_attributeType set unfinished
  scalar := agrees_typeScalar h.1
  attributes := agrees_expandAttributeGroup h.2.1
  members := agrees_expandGroup h.2.2

theorem agrees_contentLevels (h : OnlyContents unfinished) (hnone : unfinished.contents = [])
    {levels : Nat} (hlevels : set.model.size .type < levels) (id : TypeId) :
    Agrees set unfinished
      (settleWithin set .contents .contents
        (fun content => Rules.content set (answersWith set content)) levels id)
      (set.answers.content id) := by
  apply agrees_levels set.contentRule OnlyContents (Shelf.keeps_contents set)
    Trail.lawful_contents (fun _ _ hready => hready) ?_ h hnone hlevels
  intro others ask answer id hready hask
  exact Rules.follows_content set (serves_answersWith hready ask answer) hask

theorem agrees_contentOf (h : OnlyContents unfinished) (hnone : unfinished.contents = [])
    (id : TypeId) : Agrees set unfinished (contentOf set id) (set.answers.content id) :=
  agrees_contentLevels h hnone (Nat.lt_succ_self _) id

variable (set)

theorem serves_answers : (agreement set {}).Serves (answers set) set.answers :=
  serves_answersWith ⟨rfl, rfl, rfl⟩ _ _

theorem agrees_content (id : TypeId) :
    Agrees set {} ((answers set).content id) (set.answers.content id) :=
  agrees_contentOf ⟨rfl, rfl, rfl⟩ rfl id

end Resolving

inductive Query
  | elementTarget (id : ElementId)
  | elementType (id : ElementId)
  | elementName (id : ElementId)
  | attributeTarget (id : AttributeId)
  | attributeType (id : AttributeId)
  | attributeName (id : AttributeId)
  | scalarOf (target : TypeTarget)
  | content (id : TypeId)
  | attributeGroup (id : AttributeGroupId)
  | group (id : GroupId)
  deriving DecidableEq, Repr

namespace Query

def Answer : Query → Type
  | elementTarget _ => SchemaSet.Target .element
  | elementType _ => TypeTarget
  | elementName _ => String
  | attributeTarget _ => SchemaSet.Target .attribute
  | attributeType _ => TypeTarget
  | attributeName _ => String
  | scalarOf _ => Scalar
  | content _ => Content
  | attributeGroup _ => List AttributeId
  | group _ => List Member

/-- The answer from a memo. -/
def ask (set : SchemaSet) : (query : Query) → Resolving query.Answer
  | elementTarget id => Resolving.elementTarget set id
  | elementType id => Resolving.elementType set id
  | elementName id => Resolving.elementName set id
  | attributeTarget id => Resolving.attributeTarget set id
  | attributeType id => Resolving.attributeType set id
  | attributeName id => (Resolving.answers set).attributeName id
  | scalarOf target => Resolving.scalarOf set target
  | content id => Resolving.contentOf set id
  | attributeGroup id => Resolving.expandAttributeGroup set id
  | group id => Resolving.expandGroup set id

def meaning (set : SchemaSet) : (query : Query) → Except Error query.Answer
  | elementTarget id => set.answers.elementTarget id
  | elementType id => set.answers.elementType id
  | elementName id => set.answers.elementName id
  | attributeTarget id => set.answers.attributeTarget id
  | attributeType id => set.answers.attributeType id
  | attributeName id => set.answers.attributeName id
  | scalarOf target => Rules.scalarAt set.answers.scalar target
  | content id => set.answers.content id
  | attributeGroup id => set.answers.attributes id
  | group id => set.answers.members id

theorem agrees_ask (set : SchemaSet) :
    (query : Query) → Agrees set {} (query.ask set) (query.meaning set)
  | elementTarget id => Resolving.agrees_elementTarget set {} id
  | elementType id => Resolving.agrees_elementType set {} id
  | elementName id => Resolving.agrees_elementName set {} id
  | attributeTarget id => Resolving.agrees_attributeTarget set {} id
  | attributeType id => Resolving.agrees_attributeType set {} id
  | attributeName id => (Resolving.serves_answers set).attributeName id
  | scalarOf target => Resolving.agrees_scalarOf rfl target
  | content id => Resolving.agrees_content set id
  | attributeGroup id => Resolving.agrees_expandAttributeGroup rfl id
  | group id => Resolving.agrees_expandGroup rfl id

end Query

def Memo.asked (set : SchemaSet) (memo : Memo) (query : Query) : Memo :=
  stateAfter (query.ask set memo)

def Memo.after (set : SchemaSet) (history : List Query) : Memo :=
  history.foldl (Memo.asked set) {}

/-- What is answered from a memo. -/
def Query.answer (set : SchemaSet) (query : Query) (memo : Memo) : Except Error query.Answer :=
  match query.ask set memo with
  | .ok value _ => .ok value
  | .error error _ => .error error

namespace Memo

variable {set : SchemaSet}

/-- A memo between two questions: sound, and with nothing unfinished. -/
def Settled (set : SchemaSet) (memo : Memo) : Prop :=
  memo.Sound set ∧ memo.unfinished = {}

theorem settled_empty (set : SchemaSet) : Settled set {} :=
  ⟨sound_empty set, rfl⟩

theorem Settled.asked {memo : Memo} (h : memo.Settled set) (query : Query) :
    (memo.asked set query).Settled set := by
  obtain ⟨next, hsound, hnone, heq⟩ := query.agrees_ask set memo h.1 h.2
  rw [Memo.asked, heq]
  cases query.meaning set <;> exact ⟨hsound, hnone⟩

theorem settled_foldl {memo : Memo} (h : memo.Settled set) (history : List Query) :
    (history.foldl (Memo.asked set) memo).Settled set := by
  induction history generalizing memo with
  | nil => exact h
  | cons query rest ih => exact ih (h.asked query)

theorem settled_after (set : SchemaSet) (history : List Query) : (after set history).Settled set :=
  settled_foldl (settled_empty set) history

theorem Settled.answer_eq {memo : Memo} (h : memo.Settled set) (query : Query) :
    query.answer set memo = query.meaning set := by
  obtain ⟨next, _, _, heq⟩ := query.agrees_ask set memo h.1 h.2
  rw [Query.answer, heq]
  cases query.meaning set <;> rfl

end Memo

/-- No answer and no failure depends on what was asked before. -/
theorem Query.answer_after (set : SchemaSet) (history : List Query) (query : Query) :
    query.answer set (Memo.after set history) = query.answer set {} := by
  rw [(Memo.settled_after set history).answer_eq, (Memo.settled_empty set).answer_eq]

end SchemaBinding
