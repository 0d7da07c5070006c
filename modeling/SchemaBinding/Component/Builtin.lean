namespace SchemaBinding

/-- The representations a scalar value can have in generated code. -/
inductive Scalar
  | string
  | decimal
  | integer
  | boolean
  | dateTime
  deriving DecidableEq, Repr

/-- Dates and times are carried as text. -/
def Scalar.goType : Scalar → String
  | .string => "string"
  | .dateTime => "string"
  | .decimal => "float64"
  | .integer => "int"
  | .boolean => "bool"

structure Builtin where
  name : String
  scalar : Scalar
  deriving DecidableEq, Repr

namespace Builtin

def stringNames : List String :=
  ["string", "normalizedString", "token", "language", "Name", "NCName", "ID", "IDREF",
    "IDREFS", "ENTITY", "ENTITIES", "NMTOKEN", "NMTOKENS", "QName", "NOTATION", "anyURI",
    "hexBinary", "base64Binary", "anyType", "anySimpleType"]

def decimalNames : List String :=
  ["decimal", "float", "double"]

def integerNames : List String :=
  ["integer", "long", "int", "short", "byte", "nonNegativeInteger", "positiveInteger",
    "nonPositiveInteger", "negativeInteger", "unsignedLong", "unsignedInt", "unsignedShort",
    "unsignedByte"]

def dateTimeNames : List String :=
  ["duration", "dateTime", "time", "date", "gYearMonth", "gYear", "gMonthDay", "gDay",
    "gMonth"]

def scalar? (name : String) : Option Scalar :=
  if stringNames.contains name then some .string
  else if name = "boolean" then some .boolean
  else if decimalNames.contains name then some .decimal
  else if integerNames.contains name then some .integer
  else if dateTimeNames.contains name then some .dateTime
  else none

def lookup? (name : String) : Option Builtin :=
  (scalar? name).map fun scalar => ⟨name, scalar⟩

def anyType : Builtin := ⟨"anyType", .string⟩

end Builtin

end SchemaBinding
