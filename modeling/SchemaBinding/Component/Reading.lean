import SchemaBinding.Component.Model
import SchemaBinding.Xml.Document

namespace SchemaBinding

/-- What reading an element takes from its document. -/
structure Origin where
  document : DocumentId
  source : Xml.Document
  targetSpace : Option String
  /-- Whether a complex type may declare nothing. -/
  permissive : Bool

abbrev Reading := ReaderT Origin (StateT Model (Except Error))

namespace Reading

def addType (type : TypeDef) : Reading TypeId :=
  modifyGet fun model => model.addType type

def addElement (element : ElementDecl) : Reading ElementId :=
  modifyGet fun model => model.addElement element

def addAttribute (declared : AttributeDecl) : Reading AttributeId :=
  modifyGet fun model => model.addAttribute declared

def addAttributeGroup (group : AttributeGroupDef) : Reading AttributeGroupId :=
  modifyGet fun model => model.addAttributeGroup group

def addGroup (group : GroupDef) : Reading GroupId :=
  modifyGet fun model => model.addGroup group

def spanOf (element : Xml.Element) : Reading Span := do
  return ⟨(← read).document, element.start, element.stop⟩

def malformed {α : Type} (element : Xml.Element) (flaw : Flaw) : Reading α := do
  throw (.malformed flaw ((← read).source.fragment element.start element.stop))

def expect {α : Type} (element : Xml.Element) (flaw : Flaw) : Option α → Reading α
  | some value => return value
  | none => malformed element flaw

def required (element : Xml.Element) (key : String) : Reading String :=
  expect element (.lacksAttribute element.tag key) (element.attribute? key)

def qualified (element : Xml.Element) (name : String) : Reading QName :=
  element.bindings.resolve name

def qualified? (element : Xml.Element) (key : String) : Reading (Option QName) :=
  match element.attribute? key with
  | none => return none
  | some name => return some (← qualified element name)

def occursOf (element : Xml.Element) : Reading Occurs :=
  match Occurs.read (element.attribute? "minOccurs") (element.attribute? "maxOccurs") with
  | .ok occurs => return occurs
  | .error fault => malformed element (.badBound fault)

def useOf (element : Xml.Element) : Reading AttributeUse :=
  match element.attribute? "use" with
  | none => return .optional
  | some value => expect element (.badUse value) (AttributeUse.ofTag? value)

def isMixed (element : Xml.Element) : Bool :=
  match (element.attribute? "mixed").map Text.trim with
  | some "true" => true
  | some "1" => true
  | _ => false

def typeDef (element : Xml.Element) (owner : Option String) (body : TypeBody) :
    Reading TypeDef := do
  return {
    name := element.attribute? "name"
    space := (← read).targetSpace
    owner := owner
    documentation := element.documentation
    span := ← spanOf element
    body := body }

def innerOwner (element : Xml.Element) (owner : Option String) : Option String :=
  owner <|> element.attribute? "name"

def otherTags : List String :=
  ["annotation", "simpleType", "attribute", "attributeGroup", "anyAttribute", "sequence",
    "choice", "all", "group"]

/-- The facets of a restriction; what is no known facet is passed over. -/
def facetsOf (element : Xml.Element) : Facets :=
  (element.schemaChildren.filter fun child => !otherTags.contains child.tag).foldl
    (fun facets child =>
      (facets.set? child.tag ((child.attribute? "value").getD "")).getD facets)
    {}

/-! Places. -/

/-- How an element is read in each place where it can stand. The name that is passed is the
owner of what is written inside it; a declaration without one stands at the top. -/
structure Places where
  asType : Option String → Reading TypeId
  asElement : Option String → Reading ElementId
  asAttribute : Option String → Reading AttributeId
  asModelGroup : ModelType → Option String → Reading Particle
  /-- The particle of a group: its first model group. -/
  asGroup : Option String → Reading (Option Particle)
  asAttributes : Option String → Reading (List AttributeItem)
  asSimpleBody : Option String → Reading SimpleDerivation
  asContent : Option String → Reading Derivation
  /-- The extension or restriction inside the content with a tag. -/
  asDerivation : DerivationMethod → String → Option String → Reading Derivation

structure Child where
  element : Xml.Element
  places : Places

namespace Child

def tag (child : Child) : String :=
  child.element.tag

def hasTag (tags : List String) (child : Child) : Bool :=
  tags.contains child.tag

end Child

def typeTags : List String := ["complexType", "simpleType"]

def innerType (owner : Option String) (child : Child) : Reading TypeRef := do
  return .inline (← child.places.asType owner)

def groupUse (element : Xml.Element) (flaw : Flaw) : Reading GroupUse := do
  let name ← expect element flaw (← qualified? element "ref")
  return ⟨name, ← spanOf element⟩

/-- A reference, or a name with its type. A type written inside is owned by the name, and the
name by what is around it. -/
def declaration (element : Xml.Element) (children : List Child) (scope : Option String) :
    Reading Declaration := do
  if let some target ← qualified? element "ref" then
    return .reference target
  let name ← expect element (.nameless element.tag) (element.attribute? "name")
  if let some type ← qualified? element "type" then
    return .named name (some (.named type))
  match children.find? (Child.hasTag typeTags) with
  | none => return .named name none
  | some child =>
      let owner := (scope.map fun scope => scope ++ "_" ++ name).getD name
      return .named name (some (← innerType (some owner) child))

/-- At the top, occurrence bounds do not apply. -/
def elementDecl (element : Xml.Element) (children : List Child) (scope : Option String) :
    Reading ElementId := do
  let declared ← declaration element children scope
  let occurs ← if scope.isNone then pure Occurs.once else occursOf element
  addElement {
    declaration := declared
    occurs := occurs
    space := (← read).targetSpace
    documentation := element.documentation
    span := ← spanOf element }

def attributeDecl (element : Xml.Element) (children : List Child) (scope : Option String) :
    Reading AttributeId := do
  let declared ← declaration element children scope
  let use ← useOf element
  addAttribute {
    declaration := declared
    use := use
    space := (← read).targetSpace
    documentation := element.documentation
    span := ← spanOf element }

def attributeItem? (scope : Option String) (child : Child) :
    Reading (Option AttributeItem) := do
  match child.tag with
  | "attribute" => return some (.attribute (← child.places.asAttribute scope))
  | "attributeGroup" =>
      return some (.group (← groupUse child.element .attributeGroupWithoutRef))
  | _ => return none

def attributeItems (children : List Child) (scope : Option String) :
    Reading (List AttributeItem) := do
  return (← children.mapM (attributeItem? scope)).filterMap id

def groupParticle (element : Xml.Element) : Reading Particle := do
  let name ← expect element .groupWithoutRef (← qualified? element "ref")
  let occurs ← occursOf element
  return .group ⟨name, ← spanOf element⟩ occurs

def groupLike? (scope : Option String) (child : Child) : Reading (Option Particle) := do
  match ModelType.ofTag? child.tag with
  | some type => return some (← child.places.asModelGroup type scope)
  | none =>
      if child.tag = "group" then return some (← groupParticle child.element)
      else return none

def particle? (scope : Option String) (child : Child) : Reading (Option Particle) := do
  if child.tag = "element" then return some (.element (← child.places.asElement scope))
  else groupLike? scope child

def modelGroup (element : Xml.Element) (children : List Child) (type : ModelType)
    (scope : Option String) : Reading Particle := do
  let occurs ← occursOf element
  let particles ← children.mapM (particle? scope)
  return .model type occurs (particles.filterMap id)

def firstModelGroup (children : List Child) (scope : Option String) :
    Reading (Option Particle) := do
  match children.findSome? fun child => (ModelType.ofTag? child.tag).map (child, ·) with
  | none => return none
  | some (child, type) => return some (← child.places.asModelGroup type scope)

/-- The one model group among the children, after what was found before. -/
def singleGroup (element : Xml.Element) (scope : Option String) (found : Option Particle)
    (child : Child) : Reading (Option Particle) := do
  match ← groupLike? scope child with
  | none => return found
  | some particle =>
      if found.isSome then malformed element .severalModelGroups
      return some particle

def container (element : Xml.Element) (children : List Child) (scope : Option String) :
    Reading Container := do
  let attributes ← attributeItems children scope
  let particle ← children.foldlM (singleGroup element scope) none
  return ⟨attributes, particle⟩

def restrictionBody (element : Xml.Element) (children : List Child) (owner : Option String) :
    Reading SimpleDerivation := do
  match ← qualified? element "base" with
  | some base => return .restriction (.named base) (facetsOf element)
  | none =>
      let child ← expect element .restrictionWithoutBase
        (children.find? (Child.hasTag ["simpleType"]))
      return .restriction (← innerType owner child) (facetsOf element)

def listBody (element : Xml.Element) (children : List Child) (owner : Option String) :
    Reading SimpleDerivation := do
  match ← qualified? element "itemType" with
  | some item => return .list (.named item)
  | none =>
      let child ← expect element .listWithoutItem
        (children.find? (Child.hasTag ["simpleType"]))
      return .list (← innerType owner child)

def unionBody (element : Xml.Element) (children : List Child) (owner : Option String) :
    Reading SimpleDerivation := do
  let names ← (Text.words ((element.attribute? "memberTypes").getD "")).mapM (qualified element)
  let inner ← (children.filter (Child.hasTag ["simpleType"])).mapM (innerType owner)
  if names.isEmpty && inner.isEmpty then malformed element .emptyUnion
  return .union (names.map .named ++ inner)

def simpleBody (element : Xml.Element) (children : List Child) (owner : Option String) :
    Reading SimpleDerivation :=
  match element.tag with
  | "restriction" => restrictionBody element children owner
  | "list" => listBody element children owner
  | _ => unionBody element children owner

def simpleType (element : Xml.Element) (children : List Child) (owner : Option String) :
    Reading TypeId := do
  let body ← expect element .underivedSimpleType
    (children.find? (Child.hasTag ["restriction", "list", "union"]))
  let derivation ← body.places.asSimpleBody (innerOwner element owner)
  addType (← typeDef element owner (.simple derivation))

/-- The simple type and the facets that a restriction of simple content gives. -/
def simpleRestriction (element : Xml.Element) (children : List Child)
    (owner : Option String) : Reading (Option TypeId × Facets) := do
  match children.find? (Child.hasTag ["simpleType"]) with
  | none => return (none, facetsOf element)
  | some child => return (some (← child.places.asType owner), facetsOf element)

def derivation (element : Xml.Element) (children : List Child) (method : DerivationMethod)
    (content : String) (owner : Option String) : Reading Derivation := do
  let base ← expect element (.lacksAttribute method.tag "base") (← qualified? element "base")
  let (inlineSimple, facets) ←
    if content = "simpleContent" ∧ method = .restriction then
      simpleRestriction element children owner
    else pure (none, {})
  return {
    method := method
    base := base
    container := ← container element children owner
    inlineSimple := inlineSimple
    facets := facets
    span := ← spanOf element }

def derivedBy? (children : List Child) : Option (Child × DerivationMethod) :=
  children.findSome? fun child =>
    (DerivationMethod.ofTag? child.tag).map fun method => (child, method)

def content (element : Xml.Element) (children : List Child) (owner : Option String) :
    Reading Derivation := do
  let (child, method) ← expect element (.underivedContent element.tag) (derivedBy? children)
  child.places.asDerivation method element.tag owner

def complexContent (element : Xml.Element) (children : List Child) (owner : Option String) :
    Reading ComplexContent := do
  if let some child := children.find? (Child.hasTag ["simpleContent"]) then
    return .simple (← child.places.asContent owner)
  if let some child := children.find? (Child.hasTag ["complexContent"]) then
    return .complex (← child.places.asContent owner)
  if !(← read).permissive && children.all (Child.hasTag ["annotation"]) then
    malformed element .emptyComplexType
  return .direct (← container element children owner)

def complexType (element : Xml.Element) (children : List Child) (owner : Option String) :
    Reading TypeId := do
  let content ← complexContent element children (innerOwner element owner)
  addType (← typeDef element owner (.complex content (isMixed element)))

/-- How an element is read, given how its children are. -/
def placesOf (element : Xml.Element) (children : List Child) : Places where
  asType owner :=
    if element.tag = "simpleType" then simpleType element children owner
    else complexType element children owner
  asElement := elementDecl element children
  asAttribute := attributeDecl element children
  asModelGroup := modelGroup element children
  asGroup := firstModelGroup children
  asAttributes := attributeItems children
  asSimpleBody := simpleBody element children
  asContent := content element children
  asDerivation := derivation element children

mutual

def places : Xml.Element → Places
  | ⟨name, attributes, text, bindings, start, stop, children⟩ =>
      placesOf ⟨name, attributes, text, bindings, start, stop, children⟩
        (schemaParts children)

def schemaParts : List Xml.Element → List Child
  | [] => []
  | element :: rest =>
      if element.inSchemaSpace then ⟨element, places element⟩ :: schemaParts rest
      else schemaParts rest

end

end Reading

end SchemaBinding
