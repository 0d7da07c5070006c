import SchemaBinding.Text.Blank
import SchemaBinding.Text.Pieces

namespace SchemaBinding.Identifier

def keywords : List String :=
  ["break", "case", "chan", "const", "continue", "default", "defer", "else", "fallthrough",
    "for", "func", "go", "goto", "if", "import", "interface", "map", "package", "range",
    "return", "select", "struct", "switch", "type", "var"]

def isStart (c : Char) : Bool :=
  c.isAlpha || c == '_'

def isPart (c : Char) : Bool :=
  c.isAlphanum || c == '_'

def isValid (name : String) : Bool :=
  match name.toList with
  | [] => false
  | c :: rest => isStart c && rest.all isPart

def isPackage (name : String) : Bool :=
  isValid name && !keywords.contains name

def isSeparator (c : Char) : Bool :=
  c == '-' || c == '.' || c == '_' || c == ' '

/-- Letters and digits only; `raised` says that the next of them begins a word. -/
def exportChars (raised : Bool) : List Char → List Char
  | [] => []
  | c :: rest =>
      if isSeparator c then exportChars true rest
      else if c.isAlphanum then
        (if raised then c.toUpper else c) :: exportChars false rest
      else exportChars raised rest

/-- The words of a name, each with its first letter raised. A leading digit gets an `X`, and so
does a name with no letter or digit. -/
def exported (name : String) : String :=
  match exportChars true name.toList with
  | [] => "X"
  | c :: rest => String.ofList (if c.isDigit then 'X' :: c :: rest else c :: rest)

def isSegmentEnd (c : Char) : Bool :=
  c == '/' || c == ':' || c == '#'

def segments (space : String) : List (List Char) :=
  ((space.toList.splitOnP isSegmentEnd).map Text.trimChars).filter fun segment =>
    !segment.isEmpty

/-- A segment without a final file extension made of letters. -/
def withoutExtension (segment : List Char) : List Char :=
  match Text.cutLast '.' segment with
  | some (stem, extension) =>
      if !stem.isEmpty && extension.all Char.isAlpha then stem else segment
  | none => segment

def packageChars (segment : List Char) : List Char :=
  ((withoutExtension segment).filter Char.isAlphanum).map Char.toLower

/-- The last segment with a letter in it, in lower case. A leading digit or a keyword gets `ns`
in front, and a namespace without such a segment is `ns`. -/
def packageOf (space : String) : String :=
  match ((segments space).reverse.map packageChars).find? fun name => name.any Char.isAlpha with
  | none => "ns"
  | some [] => "ns"
  | some (c :: rest) =>
      let name := String.ofList (c :: rest)
      if c.isDigit || keywords.contains name then "ns" ++ name else name

/-- Whether a capital begins a word, by its two neighbours: after a small letter or a digit, or
as the last capital of several before a small letter. -/
def beginsWord (before after : Option Char) : Bool :=
  match before with
  | none => false
  | some b => b.isLower || b.isDigit || (b.isUpper && after.any Char.isLower)

def snakeChars (before : Option Char) : List Char → List Char
  | [] => []
  | c :: rest =>
      let tail := snakeChars (some c) rest
      if c.isUpper then
        if beginsWord before rest.head? then '_' :: c.toLower :: tail else c.toLower :: tail
      else c :: tail

def fileStem (name : String) : String :=
  String.ofList (snakeChars none name.toList)

def fileName (name : String) : String :=
  fileStem name ++ ".go"

end SchemaBinding.Identifier
