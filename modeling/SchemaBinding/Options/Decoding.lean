import SchemaBinding.Json.Grammar
import SchemaBinding.Options.Basic

namespace SchemaBinding.Options

def fault {α : Type} (what : String) : Except Error α :=
  .error (.json what)

def decodeText : JsonValue → Except Error String
  | .string (some text) => .ok text
  | _ => fault "expected a string"

def decodePath (value : JsonValue) : Except Error Path :=
  return ⟨← decodeText value⟩

def decodeBool : JsonValue → Except Error Bool
  | .bool value => .ok value
  | _ => fault "expected a boolean"

def decodePaths : JsonValue → Except Error (List Path)
  | .array items => items.mapM decodePath
  | _ => fault "expected an array"

def decodeEntries (table : Table String String) :
    List (Option String × JsonValue) → Except Error (Table String String)
  | [] => .ok table
  | (none, _) :: _ => fault "expected a string"
  | (some key, value) :: rest => do decodeEntries (table.put key (← decodeText value)) rest

/-- A repeated key keeps its place and takes the last value. -/
def decodeTable : JsonValue → Except Error (Table String String)
  | .object members => decodeEntries [] members
  | _ => fault "expected an object"

/-- A number of 64 bits, written in digits alone. -/
def decodeNumber : JsonValue → Except Error Nat
  | .number literal =>
      let digits := literal.toList
      let value := digits.foldl (fun value c => value * 10 + (c.toNat - '0'.toNat)) 0
      if digits.all Char.isDigit && value < Nat.pow 2 64 then .ok value
      else fault "expected a count"
  | _ => fault "expected a number"

/-- How each named field of a record is set, in order of position. -/
abbrev Record (ρ : Type) := Table String (ρ → JsonValue → Except Error ρ)

/-- Sets fields by position; there may be fewer values than fields. -/
def decodeItems {ρ : Type} (record : ρ) :
    Record ρ → List JsonValue → Except Error ρ
  | _, [] => .ok record
  | [], _ :: _ => fault "too many values"
  | (_, field) :: fields, value :: rest => do
      decodeItems (← field record value) fields rest

/-- Sets fields by name, given the names that are already set. -/
def decodeMembers {ρ : Type} (fields : Record ρ) (used : List String) (record : ρ) :
    List (Option String × JsonValue) → Except Error ρ
  | [] => .ok record
  | (none, _) :: _ => fault "malformed name"
  | (some key, value) :: rest =>
      match fields.get? key with
      | none => decodeMembers fields used record rest
      | some field => do
          if used.contains key then fault "repeated name"
          decodeMembers fields (key :: used) (← field record value) rest

def decodeRecord {ρ : Type} (fields : Record ρ) (start : ρ) : JsonValue → Except Error ρ
  | .array items => decodeItems start fields items
  | .object members => decodeMembers fields [] start members
  | _ => fault "expected an object"

def limitFields : Record Limits :=
  [("max_xml_depth", fun limits value => return { limits with depth := ← decodeNumber value }),
    ("max_xml_size", fun limits value => return { limits with size := ← decodeNumber value }),
    ("max_documents",
      fun limits value => return { limits with documents := ← decodeNumber value })]

def fields : Record Options :=
  [("input_dir",
      fun options value => return { options with inputDirectory := ← decodePath value }),
    ("roots", fun options value => return { options with roots := ← decodePaths value }),
    ("output_dir",
      fun options value => return { options with outputDirectory := ← decodePath value }),
    ("package", fun options value => return { options with package := ← decodeText value }),
    ("base_module",
      fun options value => return { options with baseModule := ← decodeText value }),
    ("namespace_packages",
      fun options value => return { options with namespacePackages := ← decodeTable value }),
    ("recursive", fun options value => return { options with recursive := ← decodeBool value }),
    ("permissive",
      fun options value => return { options with permissive := ← decodeBool value }),
    ("limits", fun options value =>
      return { options with limits := ← decodeRecord limitFields {} value })]

def ofText (text : String) : Except Error Options :=
  match JsonValue.ofText? text with
  | some value => decodeRecord fields {} value
  | none => fault "malformed text"

/-- The options that a file gives, once it has been read. -/
def ofFile (result : Except FileFault String) : Except Error Options :=
  match result with
  | .ok text => ofText text
  | .error fault => .error (.file fault)

end SchemaBinding.Options
