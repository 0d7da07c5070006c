import SchemaBinding.Component.Basic
import SchemaBinding.Options.Basic

namespace SchemaBinding

/-- A type of generated code, with its package where that is another one. -/
structure GoType where
  package : Option String
  name : String
  deriving DecidableEq, Repr

namespace GoType

def builtin (name : String) : GoType := ⟨none, name⟩

def text (type : GoType) : String :=
  match type.package with
  | some package => package ++ "." ++ type.name
  | none => type.name

end GoType

namespace TypeDef

/-- A type without a name is named after its owner. -/
def structName (type : TypeDef) : String :=
  match type.name, type.owner with
  | some name, _ => Identifier.exported name
  | none, some owner => Identifier.exported owner ++ "Type"
  | none, none => "AnonymousType"

def package (type : TypeDef) (options : Options) : String :=
  options.packageFor type.space

/-- The type as seen from a package. -/
def goType (type : TypeDef) (options : Options) (current : String) : GoType where
  package := if type.package options = current then none else some (type.package options)
  name := type.structName

end TypeDef

end SchemaBinding
