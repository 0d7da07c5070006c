import SchemaBinding.Struct.Field
import SchemaBinding.Text.Quoted

namespace SchemaBinding

structure StructFile where
  package : String
  imports : Table String String
  name : String
  documentation : List String
  base : Option GoType
  fields : List Field
  deriving DecidableEq, Repr

namespace StructFile

def header : String := "// Code generated by xsdgo. DO NOT EDIT."

def lastSegment (path : String) : String :=
  match Text.cutLast '/' path.toList with
  | some (_, segment) => String.ofList segment
  | none => path

def importLine (entry : String × String) : String :=
  if lastSegment entry.2 = entry.1 then "\t" ++ Text.quoted entry.2
  else "\t" ++ entry.1 ++ " " ++ Text.quoted entry.2

/-- By path; packages with one path by name. -/
def sortedImports (imports : Table String String) : List (String × String) :=
  (imports.mergeSort fun first second => first.1 ≤ second.1).mergeSort
    fun first second => first.2 ≤ second.2

def importLines (imports : Table String String) : List String :=
  if imports.isEmpty then []
  else "" :: "import (" :: (sortedImports imports).map importLine ++ [")"]

def commentLine (indent line : String) : String :=
  if line.isEmpty then indent ++ "//" else indent ++ "// " ++ line

/-- Every line of every text is a comment line of its own. -/
def commentLines (indent : String) (documentation : List String) : List String :=
  (documentation.flatMap Text.lines).map fun line => commentLine indent (Text.trim line)

def columnWidth (cells : List String) : Nat :=
  (cells.map String.utf8ByteSize).foldl max 0

/-- Fills a cell up to a width. A cell is as wide as it has characters. -/
def pad (width : Nat) (cell : String) : String :=
  cell ++ String.ofList (List.replicate (width - cell.length) ' ')

def fieldLine (nameWidth typeWidth : Nat) (field : Field) : String :=
  "\t" ++ pad nameWidth field.name ++ " " ++ pad typeWidth field.typeText ++
    " `xml:\"" ++ field.tag ++ "\"`"

def fieldLines (fields : List Field) : List String :=
  let nameWidth := columnWidth (fields.map Field.name)
  let typeWidth := columnWidth (fields.map Field.typeText)
  fields.flatMap fun field =>
    commentLines "\t" field.documentation ++ [fieldLine nameWidth typeWidth field]

def bodyLines (file : StructFile) : List String :=
  if file.base.isNone && file.fields.isEmpty then
    ["type " ++ file.name ++ " struct\x7b\x7d"]
  else
    ("type " ++ file.name ++ " struct \x7b") ::
      (file.base.toList.map fun base => "\t" ++ base.text) ++ fieldLines file.fields ++ ["\x7d"]

def lines (file : StructFile) : List String :=
  [header, "", "package " ++ file.package] ++ importLines file.imports ++ [""] ++
    commentLines "" file.documentation ++ bodyLines file

def text (file : StructFile) : String :=
  String.join (file.lines.map fun line => line ++ "\n")

end StructFile

end SchemaBinding
