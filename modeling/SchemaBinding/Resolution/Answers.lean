import SchemaBinding.Resolution.Reference

namespace SchemaBinding

/-- Attributes and elements of a complex type, and what encloses an element. -/
structure ParticleContext where
  repeated : Bool := false
  optional : Bool := false
  deriving DecidableEq, Repr

inductive MemberSource
  | declaredAttribute (id : AttributeId)
  | declaredElement (id : ElementId) (context : ParticleContext)
  deriving DecidableEq, Repr

/-- A declaration that becomes a field, with the name of the field. -/
structure Member where
  name : String
  source : MemberSource
  deriving DecidableEq, Repr

structure TextContent where
  scalar : Scalar
  facets : Facets
  deriving DecidableEq, Repr

structure Content where
  base : Option TypeId := none
  text : Option TextContent := none
  /-- Its own members, and the base's where those are not reached through the base. -/
  members : List Member := []
  /-- The names of all fields that can be seen on it. -/
  fieldNames : List String := []
  deriving DecidableEq, Repr

/-- The answers to the questions about components, in a monad. The rules are written over any monad
with errors, so that they say the same of remembered answers and of those worked out each time. -/
structure Answers (m : Type → Type) where
  elementTarget : ElementId → m (SchemaSet.Target .element)
  elementType : ElementId → m TypeTarget
  attributeTarget : AttributeId → m (SchemaSet.Target .attribute)
  attributeType : AttributeId → m TypeTarget
  scalar : TypeId → m Scalar
  content : TypeId → m Content
  attributes : AttributeGroupId → m (List AttributeId)
  members : GroupId → m (List Member)

section

variable {m : Type → Type} [Monad m] [MonadExceptOf Error m]

def given {α : Type} : Except Error α → m α
  | .ok value => return value
  | .error error => throw error

namespace Answers

def elementName (answers : Answers m) (id : ElementId) : m String := do
  return (← answers.elementTarget id).name

def attributeName (answers : Answers m) (id : AttributeId) : m String := do
  return (← answers.attributeTarget id).name

end Answers

end

def SchemaSet.label (set : SchemaSet) (kind : SymbolKind) (id : Id kind) : String :=
  match kind with
  | .type => ((set.model.type? id).map TypeDef.displayName).getD ""
  | .attributeGroup => ((set.model.attributeGroup? id).map AttributeGroupDef.name).getD ""
  | .group => ((set.model.group? id).map GroupDef.name).getD ""
  | .element => set.declarationLabel .element id
  | .attribute => set.declarationLabel .attribute id

def chain {kind : SymbolKind} (unfinished : List (Id kind)) (id : Id kind) : List (Id kind) :=
  unfinished.reverse.dropWhile (· != id) ++ [id]

/-- A component that comes up again while it is being worked out. -/
def SchemaSet.cycle (set : SchemaSet) (kind : SymbolKind) (unfinished : List (Id kind))
    (id : Id kind) : Error :=
  .cyclic kind ((chain unfinished id).map (set.label kind))

end SchemaBinding
