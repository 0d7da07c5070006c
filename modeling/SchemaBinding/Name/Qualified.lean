import SchemaBinding.Error
import SchemaBinding.Table
import SchemaBinding.Text.Blank

namespace SchemaBinding

def xsdNamespace : String := "http://www.w3.org/2001/XMLSchema"

def xmlNamespace : String := "http://www.w3.org/XML/1998/namespace"

/-- An empty namespace is a namespace; having none is something else. -/
structure QName where
  space : Option String
  localName : String
  deriving DecidableEq, Repr

namespace QName

def inNamespace (name : QName) (space : Option String) : Bool :=
  name.space == space

/-- `\x7bspace\x7dlocal`, or the local name alone where there is no namespace. -/
def text (name : QName) : String :=
  match name.space with
  | some space => "\x7b" ++ space ++ "\x7d" ++ name.localName
  | none => name.localName

/-- What stands before the first colon, if there is one, and the rest. -/
def split (name : String) : Option String × String :=
  match Text.cutFirst ':' name.toList with
  | some (short, rest) => (some (String.ofList short), String.ofList rest)
  | none => (none, name)

end QName

structure Bindings where
  prefixes : Table String String := []
  defaultSpace : Option String := none
  deriving DecidableEq, Repr

namespace Bindings

def bind (bindings : Bindings) (short space : String) : Bindings :=
  { bindings with prefixes := bindings.prefixes.put short space }

def bindDefault (bindings : Bindings) (space : String) : Bindings :=
  { bindings with defaultSpace := some space }

def space? (bindings : Bindings) (short : String) : Option String :=
  bindings.prefixes.get? short

/-- The namespace of a prefix; `xml` has one without being declared. -/
def spaceOf? (bindings : Bindings) (short : String) : Option String :=
  match bindings.space? short with
  | some space => some space
  | none => if short = "xml" then some xmlNamespace else none

/-- A name without a prefix takes the default namespace, or none where there is none. -/
def resolve (bindings : Bindings) (name : String) : Except Error QName :=
  match QName.split (Text.trim name) with
  | (none, localName) => .ok ⟨bindings.defaultSpace, localName⟩
  | (some short, localName) =>
      match bindings.spaceOf? short with
      | some space => .ok ⟨some space, localName⟩
      | none => .error (.naming (.unknownPrefix short name))

end Bindings

end SchemaBinding
