import SchemaBinding.Component.Facets
import SchemaBinding.Component.Occurs
import SchemaBinding.Name.Qualified

namespace SchemaBinding

/-- The number of a component within its kind. A component that is written inside another one is
referred to by it; what is named is referred to by name, since it may be declared later. -/
structure Id (kind : SymbolKind) where
  index : Nat
  deriving DecidableEq, Repr

instance {kind : SymbolKind} : LawfulBEq (Id kind) :=
  inferInstance

abbrev ElementId := Id .element
abbrev AttributeId := Id .attribute
abbrev TypeId := Id .type
abbrev AttributeGroupId := Id .attributeGroup
abbrev GroupId := Id .group

/-- The number of a document in the order of loading. -/
structure DocumentId where
  index : Nat
  deriving DecidableEq, Repr

/-- Where something is written: a document and two byte offsets in it. -/
structure Span where
  document : DocumentId
  start : Nat
  stop : Nat
  deriving DecidableEq, Repr

inductive TypeRef
  | named (name : QName)
  | inline (id : TypeId)
  deriving DecidableEq, Repr

structure GroupUse where
  name : QName
  span : Span
  deriving DecidableEq, Repr

inductive AttributeItem
  | attribute (id : AttributeId)
  | group (use : GroupUse)
  deriving DecidableEq, Repr

inductive ModelType
  | sequence
  | choice
  | all
  deriving DecidableEq, Repr

namespace ModelType

def tag : ModelType → String
  | sequence => "sequence"
  | choice => "choice"
  | all => "all"

def ofTag? (tag : String) : Option ModelType :=
  [sequence, choice, all].find? fun type => type.tag == tag

end ModelType

inductive Particle
  | element (id : ElementId)
  | model (type : ModelType) (occurs : Occurs) (particles : List Particle)
  | group (use : GroupUse) (occurs : Occurs)
  deriving Repr

/-- The attributes and the particle that a type or a derivation declares itself. -/
structure Container where
  attributes : List AttributeItem := []
  particle : Option Particle := none
  deriving Repr

def Container.isEmpty (container : Container) : Bool :=
  container.attributes.isEmpty && container.particle.isNone

inductive SimpleDerivation
  | restriction (base : TypeRef) (facets : Facets)
  | list (item : TypeRef)
  | union (members : List TypeRef)
  deriving DecidableEq, Repr

inductive DerivationMethod
  | extension
  | restriction
  deriving DecidableEq, Repr

namespace DerivationMethod

def tag : DerivationMethod → String
  | extension => "extension"
  | restriction => "restriction"

def ofTag? (tag : String) : Option DerivationMethod :=
  [extension, restriction].find? fun method => method.tag == tag

end DerivationMethod

structure Derivation where
  method : DerivationMethod
  base : QName
  container : Container
  /-- The type written inside a restriction of simple content. -/
  inlineSimple : Option TypeId
  facets : Facets
  span : Span
  deriving Repr

inductive ComplexContent
  | direct (container : Container)
  | simple (derivation : Derivation)
  | complex (derivation : Derivation)
  deriving Repr

inductive TypeBody
  | simple (derivation : SimpleDerivation)
  | complex (content : ComplexContent) (mixed : Bool)
  deriving Repr

structure TypeDef where
  name : Option String
  space : Option String
  /-- The declarations around a type without a name, joined by underscores. -/
  owner : Option String
  documentation : List String
  span : Span
  body : TypeBody
  deriving Repr

namespace TypeDef

def qname? (type : TypeDef) : Option QName :=
  type.name.map fun name => ⟨type.space, name⟩

def displayName (type : TypeDef) : String :=
  match type.name, type.owner with
  | some name, _ => name
  | none, some owner => "<anonymous type of '" ++ owner ++ "'>"
  | none, none => "<anonymous type>"

def isComplex (type : TypeDef) : Bool :=
  match type.body with
  | .simple _ => false
  | .complex _ _ => true

end TypeDef

inductive Declaration
  | named (name : String) (type : Option TypeRef)
  | reference (target : QName)
  deriving DecidableEq, Repr

structure ElementDecl where
  declaration : Declaration
  occurs : Occurs
  space : Option String
  documentation : List String
  span : Span
  deriving DecidableEq, Repr

inductive AttributeUse
  | optional
  | required
  | prohibited
  deriving DecidableEq, Repr

namespace AttributeUse

def tag : AttributeUse → String
  | optional => "optional"
  | required => "required"
  | prohibited => "prohibited"

def ofTag? (tag : String) : Option AttributeUse :=
  [optional, required, prohibited].find? fun use => use.tag == tag

end AttributeUse

structure AttributeDecl where
  declaration : Declaration
  use : AttributeUse
  space : Option String
  documentation : List String
  span : Span
  deriving DecidableEq, Repr

structure AttributeGroupDef where
  name : String
  space : Option String
  attributes : List AttributeItem
  span : Span
  deriving DecidableEq, Repr

structure GroupDef where
  name : String
  space : Option String
  particle : Option Particle
  span : Span
  deriving Repr

end SchemaBinding
