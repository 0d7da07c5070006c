import SchemaBinding.Limits
import SchemaBinding.Name.Qualified

namespace SchemaBinding.Xml

structure Element where
  name : QName
  /-- The attributes without a prefix, in document order. -/
  attributes : Table String String
  /-- The text directly inside, none if there is no text at all. -/
  text : Option String
  bindings : Bindings
  /-- The byte offsets of the element in its source. -/
  start : Nat
  stop : Nat
  children : List Element

namespace Element

def attribute? (element : Element) (key : String) : Option String :=
  element.attributes.get? key

def tag (element : Element) : String :=
  element.name.localName

def inSchemaSpace (element : Element) : Bool :=
  element.name.space == some xsdNamespace

def isSchema (element : Element) (tag : String) : Bool :=
  element.inSchemaSpace && element.tag == tag

def schemaChildren (element : Element) : List Element :=
  element.children.filter inSchemaSpace

def childrenTagged (element : Element) (tag : String) : List Element :=
  element.schemaChildren.filter fun child => child.tag == tag

def childTagged? (element : Element) (tag : String) : Option Element :=
  element.schemaChildren.find? fun child => child.tag == tag

/-- The texts of its documentation, trimmed, without empty ones. -/
def documentation (element : Element) : List String :=
  (((element.childrenTagged "annotation").flatMap
    fun annotation => annotation.childrenTagged "documentation").filterMap
      fun entry => entry.text.map Text.trim).filter fun text => text != ""

mutual

def count : Element → Nat
  | ⟨_, _, _, _, _, _, children⟩ => countAll children + 1

def countAll : List Element → Nat
  | [] => 0
  | child :: rest => count child + countAll rest

end

mutual

/-- Checks the nesting depth, in document order. -/
def checkDepth (limits : Limits) (depth : Nat) : Element → Except Error Unit
  | ⟨_, _, _, _, _, _, children⟩ => do
      limits.checkDepth depth
      checkDepths limits (depth + 1) children

def checkDepths (limits : Limits) (depth : Nat) : List Element → Except Error Unit
  | [] => .ok ()
  | child :: rest => do
      checkDepth limits depth child
      checkDepths limits depth rest

end

end Element

end SchemaBinding.Xml
