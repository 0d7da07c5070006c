import SchemaBinding.Resolution.Content
import SchemaBinding.Struct.Naming

namespace SchemaBinding

structure Field where
  name : String
  type : GoType
  isArray : Bool := false
  isPointer : Bool := false
  /-- What the XML tag of the field says. -/
  tag : String
  documentation : List String
  /-- The complex type the field holds. -/
  referenced : Option TypeId := none
  deriving DecidableEq, Repr

namespace Field

def typeText (field : Field) : String :=
  (if field.isArray then "[]" else if field.isPointer then "*" else "") ++ field.type.text

def tagText (name : String) (isAttribute optional : Bool) : String :=
  name ++ (if isAttribute then ",attr" else "") ++ (if optional then ",omitempty" else "")

def ofText (text : TextContent) : Field where
  name := Content.textFieldName
  type := .builtin text.scalar.goType
  tag := ",chardata"
  documentation := text.facets.describe

/-- The type of a value, the complex type it holds, and what its facets say. -/
structure Value where
  type : GoType
  referenced : Option TypeId
  facets : List String
  deriving DecidableEq, Repr

section

variable (set : SchemaSet) (options : Options) {m : Type → Type} [Monad m]
  [MonadExceptOf Error m] (answers : Answers m)

def valueOf (package : String) (target : TypeTarget) : m Value := do
  match target with
  | .complex id =>
      let type ← given (set.typeDef id)
      return ⟨type.goType options package, some id, []⟩
  | _ =>
      let scalar ← Rules.scalarAt answers.scalar target
      let facets := ((set.facetsOf? target).map Facets.describe).getD []
      return ⟨.builtin scalar.goType, none, facets⟩

/-- The documentation of a declaration, or else that of the reference to it. -/
def documentationOf (target written : List String) : List String :=
  if target.isEmpty then written else target

def elementField (package : String) (id : ElementId) (context : ParticleContext)
    (name : String) : m Field := do
  let written ← given (set.elementDecl id)
  let target ← answers.elementTarget id
  let value ← valueOf set options answers package (← answers.elementType id)
  let isArray := written.occurs.isRepeated || context.repeated
  let optional := written.occurs.isEmptiable || context.optional
  return {
    name := name
    type := value.type
    isArray := isArray
    isPointer := value.referenced.isSome && optional && !isArray
    tag := tagText target.name false optional
    documentation := documentationOf target.documentation written.documentation ++ value.facets
    referenced := value.referenced }

def attributeField (package : String) (id : AttributeId) (name : String) : m Field := do
  let written ← given (set.attributeDecl id)
  let target ← answers.attributeTarget id
  let type ← answers.attributeType id
  if type.complex?.isSome then
    throw (set.malformed (.complexAttribute target.name) written.span)
  let value ← valueOf set options answers package type
  return {
    name := name
    type := value.type
    tag := tagText target.name true (written.use != .required)
    documentation :=
      documentationOf target.documentation written.documentation ++ value.facets }

def memberField (package : String) (member : Member) : m Field :=
  match member.source with
  | .declaredAttribute id => attributeField set options answers package id member.name
  | .declaredElement id context =>
      elementField set options answers package id context member.name

end

def ofMember (set : SchemaSet) (options : Options) (package : String) (member : Member) :
    Resolving Field :=
  memberField set options (Resolving.answers set) package member

end Field

end SchemaBinding
