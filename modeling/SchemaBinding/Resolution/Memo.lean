import SchemaBinding.Resolution.Answers

namespace SchemaBinding

/-- The components whose answers are being worked out, newest first. -/
structure Unfinished where
  scalars : List TypeId := []
  contents : List TypeId := []
  attributeGroups : List AttributeGroupId := []
  groups : List GroupId := []
  deriving DecidableEq, Repr

/-- What is remembered, and what is unfinished. -/
structure Memo where
  elementTargets : Table ElementId (SchemaSet.Target .element) := []
  attributeTargets : Table AttributeId (SchemaSet.Target .attribute) := []
  elementTypes : Table ElementId TypeTarget := []
  attributeTypes : Table AttributeId TypeTarget := []
  scalars : Table TypeId Scalar := []
  contents : Table TypeId Content := []
  attributeGroups : Table AttributeGroupId (List AttributeId) := []
  groups : Table GroupId (List Member) := []
  unfinished : Unfinished := {}
  deriving DecidableEq, Repr

/-- The part of a memo that remembers one sort of answer. -/
structure Shelf (kind : SymbolKind) (α : Type) where
  view : Memo → Table (Id kind) α
  update : Memo → Table (Id kind) α → Memo

namespace Shelf

def elementTargets : Shelf .element (SchemaSet.Target .element) where
  view := Memo.elementTargets
  update memo table := { memo with elementTargets := table }

def attributeTargets : Shelf .attribute (SchemaSet.Target .attribute) where
  view := Memo.attributeTargets
  update memo table := { memo with attributeTargets := table }

def elementTypes : Shelf .element TypeTarget where
  view := Memo.elementTypes
  update memo table := { memo with elementTypes := table }

def attributeTypes : Shelf .attribute TypeTarget where
  view := Memo.attributeTypes
  update memo table := { memo with attributeTypes := table }

def scalars : Shelf .type Scalar where
  view := Memo.scalars
  update memo table := { memo with scalars := table }

def contents : Shelf .type Content where
  view := Memo.contents
  update memo table := { memo with contents := table }

def attributeGroups : Shelf .attributeGroup (List AttributeId) where
  view := Memo.attributeGroups
  update memo table := { memo with attributeGroups := table }

def groups : Shelf .group (List Member) where
  view := Memo.groups
  update memo table := { memo with groups := table }

end Shelf

/-- The part of what is unfinished that belongs to one sort of answer. -/
structure Trail (kind : SymbolKind) where
  view : Unfinished → List (Id kind)
  update : Unfinished → List (Id kind) → Unfinished

namespace Trail

def scalars : Trail .type where
  view := Unfinished.scalars
  update unfinished ids := { unfinished with scalars := ids }

def contents : Trail .type where
  view := Unfinished.contents
  update unfinished ids := { unfinished with contents := ids }

def attributeGroups : Trail .attributeGroup where
  view := Unfinished.attributeGroups
  update unfinished ids := { unfinished with attributeGroups := ids }

def groups : Trail .group where
  view := Unfinished.groups
  update unfinished ids := { unfinished with groups := ids }

variable {kind : SymbolKind}

def ids (trail : Trail kind) (memo : Memo) : List (Id kind) :=
  trail.view memo.unfinished

def push (trail : Trail kind) (id : Id kind) (memo : Memo) : Memo :=
  { memo with unfinished := trail.update memo.unfinished (id :: trail.ids memo) }

def pop (trail : Trail kind) (memo : Memo) : Memo :=
  { memo with unfinished := trail.update memo.unfinished (trail.ids memo).tail }

end Trail

/-- Work with a memo, which is kept when the work fails. -/
abbrev Resolving := EStateM Error Memo

namespace Resolving

variable {kind : SymbolKind} {α : Type}

def remember (shelf : Shelf kind α) (id : Id kind) (value : α) : Resolving Unit :=
  modify fun memo => shelf.update memo ((shelf.view memo).put id value)

/-- What is remembered, or else what the work gives, which is then remembered; a failure is not. -/
def remembered (shelf : Shelf kind α) (id : Id kind) (work : Resolving α) : Resolving α := do
  match (shelf.view (← get)).get? id with
  | some value => return value
  | none =>
      let value ← work
      remember shelf id value
      return value

/-- Does the work for a component unless that is being done already. While it is done the
component is unfinished, and it is not any more when the work ends, also in a failure. -/
def guarded (set : SchemaSet) (trail : Trail kind) (id : Id kind) (work : Resolving α) :
    Resolving α := fun memo =>
  if id ∈ trail.ids memo then .error (set.cycle kind (trail.ids memo) id) memo
  else
    match work (trail.push id memo) with
    | .ok value next => .ok value (trail.pop next)
    | .error error next => .error error (trail.pop next)

/-- The answer for a component by a rule that may ask for the answers of others. Each answer
below it is for one more unfinished component, so as many levels as there are components, and
one for a cycle, are enough. -/
def settleWithin (set : SchemaSet) (shelf : Shelf kind α) (trail : Trail kind)
    (rule : (Id kind → Resolving α) → Id kind → Resolving α) : Nat → Id kind → Resolving α
  | 0, id => throw (.absent kind id.index)
  | levels + 1, id =>
      remembered shelf id (guarded set trail id
        (rule (settleWithin set shelf trail rule levels) id))

def settle (set : SchemaSet) (shelf : Shelf kind α) (trail : Trail kind)
    (rule : (Id kind → Resolving α) → Id kind → Resolving α) (id : Id kind) : Resolving α :=
  settleWithin set shelf trail rule (set.model.size kind + 1) id

def elementTarget (set : SchemaSet) (id : ElementId) :
    Resolving (SchemaSet.Target .element) :=
  remembered .elementTargets id (given (set.targetOf .element id))

def attributeTarget (set : SchemaSet) (id : AttributeId) :
    Resolving (SchemaSet.Target .attribute) :=
  remembered .attributeTargets id (given (set.targetOf .attribute id))

def elementType (set : SchemaSet) (id : ElementId) : Resolving TypeTarget :=
  remembered .elementTypes id do given (set.targetType (← elementTarget set id))

def attributeType (set : SchemaSet) (id : AttributeId) : Resolving TypeTarget :=
  remembered .attributeTypes id do given (set.targetType (← attributeTarget set id))

end Resolving

end SchemaBinding
