import SchemaBinding.Text.Pieces
import SchemaBinding.Xml.CharData

namespace SchemaBinding.Xml

/-- A name as written, with an empty prefix where it has none. -/
structure RawName where
  short : String
  localName : String
  deriving DecidableEq, Repr

def RawName.text (name : RawName) : String :=
  if name.short.isEmpty then name.localName else name.short ++ ":" ++ name.localName

inductive Token
  | opening (name : RawName) (attributes : List (RawName × String)) (closed : Bool)
      (start stop : Nat)
  | closing (name : RawName) (stop : Nat)
  /-- Text between markup; `plain` says that it is white space as written. -/
  | text (value : String) (plain : Bool)
  | cdata (value : String)
  | skipped
  deriving DecidableEq, Repr

/-- What is left of the text, and its length in bytes. -/
structure Cursor where
  rest : List Char
  left : Nat
  deriving DecidableEq, Repr

abbrev Scan := EStateM Fault Cursor

namespace Scan

def given {α : Type} : Except Fault α → Scan α
  | .ok value => return value
  | .error fault => throw fault

def taking (count : List Char) (rest : List Char) : Scan Unit :=
  modify fun cursor => ⟨rest, cursor.left - Text.byteCount count⟩

def span (test : Char → Bool) : Scan (List Char) := do
  let rest := (← get).rest
  let taken := rest.takeWhile test
  taking taken (rest.dropWhile test)
  return taken

def startsWith (mark : String) : Scan Bool := do
  return mark.toList.isPrefixOf (← get).rest

def skip? (mark : String) : Scan Bool := do
  if ← startsWith mark then
    taking mark.toList ((← get).rest.drop mark.length)
    return true
  else return false

def skip (mark : String) : Scan Unit := do
  if !(← skip? mark) then throw (.expected mark)

def spaces : Scan Bool := do
  return !(← span isSpace).isEmpty

/-- Everything up to a mark, and the mark. All of it has to be characters of XML. -/
def upTo (mark : String) : Scan (List Char) := do
  let rest := (← get).rest
  match cutAt mark.toList [] rest with
  | none => throw (.expected mark)
  | some (before, after) =>
      if !before.all isChar then throw .badChar
      taking (before ++ mark.toList) after
      return before
where
  cutAt (mark done : List Char) : List Char → Option (List Char × List Char)
    | [] => none
    | c :: rest =>
        if mark.isPrefixOf (c :: rest) then some (done.reverse, (c :: rest).drop mark.length)
        else cutAt mark (c :: done) rest

/-- Runs a step until it gives nothing. Every step but the last has to take something. -/
def collect {α : Type} (step : Scan (Option α)) (done : List α) : Scan (List α) :=
  fun cursor =>
    match step cursor with
    | .error fault cursor => .error fault cursor
    | .ok none next => .ok done.reverse next
    | .ok (some item) next =>
        if next.left < cursor.left then collect step (item :: done) next
        else .error (.expected "markup") next
termination_by cursor => cursor.left

def qualifiedName : Scan RawName := do
  let name ← span isNamePart
  let (short, localName) := (Text.cutFirst ':' name).getD ([], name)
  if localName.contains ':' then throw .badName
  if !(short.take 1).all isNameStart then throw .badName
  if !(localName.head?.any isNameStart) then throw .badName
  return ⟨String.ofList short, String.ofList localName⟩

def quote : Scan Char := do
  if ← skip? "\"" then return '"'
  if ← skip? "'" then return '\''
  throw (.expected "a quote")

def rawAttribute : Scan (RawName × List Char) := do
  let name ← qualifiedName
  discard spaces
  skip "="
  discard spaces
  let mark ← quote
  let value ← span fun c => c != mark && c != '<' && isChar c
  skip (String.singleton mark)
  return (name, value)

/-- One attribute of a tag, or nothing where the tag ends. An attribute follows white space. -/
def tagAttribute? : Scan (Option (RawName × String)) := do
  let spaced ← spaces
  if (← startsWith "/") || (← startsWith ">") then return none
  if !spaced then throw (.expected "a whitespace")
  let (name, value) ← rawAttribute
  return some (name, ← given (attributeValue value))

def openingTag (total : Nat) : Scan Token := do
  let start := total - (← get).left
  skip "<"
  let name ← qualifiedName
  if name.short = "xmlns" then throw .reservedNamespace
  let attributes ← collect tagAttribute? []
  let closed ← skip? "/"
  skip ">"
  return .opening name attributes closed start (total - (← get).left)

def closingTag (total : Nat) : Scan Token := do
  skip "</"
  let name ← qualifiedName
  discard spaces
  skip ">"
  return .closing name (total - (← get).left)

def hasDoubleHyphen : List Char → Bool
  | '-' :: '-' :: _ => true
  | _ :: rest => hasDoubleHyphen rest
  | [] => false

def comment : Scan Token := do
  skip "<!--"
  let text ← upTo "-->"
  if hasDoubleHyphen text || text.getLast? = some '-' then throw .badComment
  return .skipped

def instruction : Scan Token := do
  if ← startsWith "<?xml " then throw .misplacedDeclaration
  skip "<?"
  let target ← span isNamePart
  if !(target.head?.any isNameStart) then throw .badName
  discard spaces
  discard (upTo "?>")
  return .skipped

def cdataSection : Scan Token := do
  skip "<![CDATA["
  return .cdata (sectionValue (← upTo "]]>"))

def hasSectionEnd : List Char → Bool
  | ']' :: ']' :: '>' :: _ => true
  | _ :: rest => hasSectionEnd rest
  | [] => false

def textRun : Scan Token := do
  let text ← span (· != '<')
  if !text.all isChar then throw .badChar
  if hasSectionEnd text then throw .sectionEndInText
  return .text (← given (textValue text)) (text.all isSpace)

/-- The next token, or nothing at the end of the text. -/
def token? (total : Nat) : Scan (Option Token) := do
  match (← get).rest with
  | [] => return none
  | '<' :: '!' :: _ =>
      if ← startsWith "<!--" then return some (← comment)
      if ← startsWith "<![CDATA[" then return some (← cdataSection)
      throw .documentType
  | '<' :: '?' :: _ => return some (← instruction)
  | '<' :: '/' :: _ => return some (← closingTag total)
  | '<' :: _ => return some (← openingTag total)
  | _ => return some (← textRun)

/-! The XML declaration, which only the start of a document can have. -/

def declarationSpaces : Scan Unit := do
  if !(← spaces) then
    if !(← startsWith "?>") && !(← get).rest.isEmpty then throw (.expected "a whitespace")

def declaration : Scan Unit := do
  if !(← startsWith "<?xml ") then return
  skip "<?xml"
  declarationSpaces
  if !(← startsWith "version") then throw (.expected "version")
  discard rawAttribute
  declarationSpaces
  if ← startsWith "encoding" then
    discard rawAttribute
    declarationSpaces
  if ← startsWith "standalone" then discard rawAttribute
  discard spaces
  skip "?>"

def tokens (total : Nat) : Scan (List Token) := do
  discard (skip? "\uFEFF")
  declaration
  collect (token? total) []

end Scan

def tokensOf (source : String) : Except Fault (List Token) :=
  match Scan.tokens source.utf8ByteSize ⟨source.toList, source.utf8ByteSize⟩ with
  | .ok tokens _ => .ok tokens
  | .error fault _ => .error fault

end SchemaBinding.Xml
