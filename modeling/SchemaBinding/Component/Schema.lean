import SchemaBinding.Component.Reading
import SchemaBinding.Component.Symbols

namespace SchemaBinding

/-- A request for the declarations of another document. -/
inductive Directive
  | inclusion (location : String)
  | importing (space location : Option String)
  deriving DecidableEq, Repr

structure Schema where
  targetSpace : Option String
  symbols : SymbolTable
  /-- In document order. -/
  directives : List Directive

namespace Schema

open Reading

def register (schema : Schema) (name : String) (symbol : Symbol) : Reading Schema := do
  return { schema with symbols := ← schema.symbols.register name symbol }

def attributeGroup (child : Child) (name : String) : Reading AttributeGroupId := do
  addAttributeGroup {
    name := name
    space := (← read).targetSpace
    attributes := ← child.places.asAttributes (some name)
    span := ← spanOf child.element }

def group (child : Child) (name : String) : Reading GroupId := do
  addGroup {
    name := name
    space := (← read).targetSpace
    particle := ← child.places.asGroup (some name)
    span := ← spanOf child.element }

def declared (schema : Schema) (child : Child) (kind : SymbolKind)
    (component : String → Reading (Id kind)) : Reading Schema := do
  let name ← required child.element "name"
  schema.register name ⟨kind, ← component name⟩

/-- Takes in one child of the root. Children that declare nothing here are passed over. -/
def add (schema : Schema) (child : Child) : Reading Schema := do
  match child.tag with
  | "include" =>
      let location ← required child.element "schemaLocation"
      return { schema with directives := schema.directives ++ [.inclusion location] }
  | "import" =>
      let space := child.element.attribute? "namespace"
      let location := child.element.attribute? "schemaLocation"
      return { schema with directives := schema.directives ++ [.importing space location] }
  | "element" => schema.declared child .element fun _ => child.places.asElement none
  | "attribute" => schema.declared child .attribute fun _ => child.places.asAttribute none
  | "simpleType" => schema.declared child .type fun _ => child.places.asType none
  | "complexType" => schema.declared child .type fun _ => child.places.asType none
  | "attributeGroup" => schema.declared child .attributeGroup (attributeGroup child)
  | "group" => schema.declared child .group (group child)
  | _ => return schema

def targetSpaceOf (root : Xml.Element) : Option String :=
  (root.attribute? "targetNamespace").filter fun space => space != ""

/-- Reads a document into a model. The label names the document in messages. -/
def read (document : Xml.Document) (id : DocumentId) (label : String) (permissive : Bool)
    (model : Model) : Except Error (Schema × Model) := do
  let root := document.root
  if !root.isSchema "schema" then
    throw (.malformed (.notSchema root.name.text) (document.fragment root.start root.stop))
  let targetSpace := targetSpaceOf root
  let start : Schema := ⟨targetSpace, { document := label, permissive := permissive }, []⟩
  ((schemaParts root.children).foldlM add start).run ⟨id, document, targetSpace, permissive⟩
    |>.run model

end Schema

end SchemaBinding
