import SchemaBinding.Resolution.Expansion
import SchemaBinding.Resolution.Scalar

namespace SchemaBinding

namespace Content

def textFieldName : String := "Text"

def add (content : Content) (member : Member) : Content :=
  if member.name ∈ content.fieldNames then content
  else
    { content with
      members := content.members ++ [member]
      fieldNames := content.fieldNames ++ [member.name] }

def addAll (content : Content) (members : List Member) : Content :=
  members.foldl add content

end Content

namespace Rules

variable (set : SchemaSet) {m : Type → Type} [Monad m] [MonadExceptOf Error m]
  (answers : Answers m)

/-- The member for an attribute; a prohibited one gives none. -/
def attributeMember? (id : AttributeId) : m (Option Member) := do
  let declared ← given (set.attributeDecl id)
  if declared.use = .prohibited then return none
  let name ← answers.attributeName id
  return some ⟨Identifier.exported name, .declaredAttribute id⟩

def attributeMembers : List AttributeId → m (List Member)
  | [] => return []
  | id :: rest => do
      let first ← attributeMember? set answers id
      let others ← attributeMembers rest
      return first.toList ++ others

def ownMembers (container : Container) : m (List Member) := do
  let ids ← expandItems set answers.attributes container.attributes
  let first ← attributeMembers set answers ids
  let elements ←
    match container.particle with
    | none => pure []
    | some particle => expandWith set answers.elementName answers.members {} particle
  return first ++ elements

def flattenedMembers : TypeTarget → m (List Member)
  | .complex base => do return (← answers.content base).members
  | _ => return []

def extended (derivation : Derivation) : TypeTarget → m Content
  | .complex base => do
      return { base := base, fieldNames := (← answers.content base).fieldNames }
  | .builtin type =>
      if type = .anyType then return {}
      else throw (set.malformed (.extendsNonComplex derivation.base.text) derivation.span)
  | .simple _ =>
      throw (set.malformed (.extendsNonComplex derivation.base.text) derivation.span)

def simpleContent (id : TypeId) (derivation : Derivation) : m Content := do
  let scalar ← answers.scalar id
  let base ← given (set.resolveTypeName derivation.base derivation.span)
  let inherited ← flattenedMembers answers base
  let own ← ownMembers set answers derivation.container
  let start : Content :=
    { text := some ⟨scalar, derivation.facets⟩, fieldNames := [Content.textFieldName] }
  return start.addAll (inherited ++ own)

/-- What the members of complex content are added to. -/
def contentStart (derivation : Derivation) (base : TypeTarget) : m Content :=
  match derivation.method with
  | .extension => extended set answers derivation base
  | .restriction => return {}

def complexContent (derivation : Derivation) : m Content := do
  let base ← given (set.resolveTypeName derivation.base derivation.span)
  let start ← contentStart set answers derivation base
  let own ← ownMembers set answers derivation.container
  return start.addAll own

def bodyContent (id : TypeId) (type : TypeDef) : m Content :=
  match type.body with
  | .simple _ => throw (set.malformed (.notComplex type.displayName) type.span)
  | .complex (.direct container) _ => do
      return Content.addAll {} (← ownMembers set answers container)
  | .complex (.simple derivation) _ => simpleContent set answers id derivation
  | .complex (.complex derivation) _ => complexContent set answers derivation

def content (id : TypeId) : m Content := do
  bodyContent set answers id (← given (set.typeDef id))

end Rules

namespace Resolving

variable (set : SchemaSet)

def answersWith (content : TypeId → Resolving Content) : Answers Resolving where
  elementTarget := elementTarget set
  elementType := elementType set
  attributeTarget := attributeTarget set
  attributeType := attributeType set
  scalar := typeScalar set
  content := content
  attributes := expandAttributeGroup set
  members := expandGroup set

def contentOf (id : TypeId) : Resolving Content :=
  settle set .contents .contents (fun content => Rules.content set (answersWith set content)) id

def answers : Answers Resolving :=
  answersWith set (contentOf set)

end Resolving

end SchemaBinding
