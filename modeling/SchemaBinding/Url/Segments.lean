import SchemaBinding.Text.Pieces
import SchemaBinding.Url.Percent

namespace SchemaBinding.Url

def isBreak (c : Char) : Bool :=
  c == '\t' || c == '\n' || c == '\r'

def withoutBreaks (text : List Char) : List Char :=
  text.filter fun c => !isBreak c

/-- The first character that counts, and what follows it. -/
def next? (text : List Char) : Option (Char × List Char) :=
  match text.dropWhile isBreak with
  | [] => none
  | c :: rest => some (c, rest)

/-- Whether a character stands between segments; the well-known schemes take both slashes. -/
def isSlash (special : Bool) (c : Char) : Bool :=
  c == '/' || (special && c == '\\')

def isDot (segment : List Char) : Bool :=
  [".", "%2e"].contains (String.ofList (segment.map Char.toLower))

def isDoubleDot (segment : List Char) : Bool :=
  ["..", ".%2e", "%2e.", "%2e%2e"].contains (String.ofList (segment.map Char.toLower))

def isDrive (segment : List Char) : Bool :=
  match segment with
  | [letter, mark] => letter.isAlpha && (mark == ':' || mark == '|')
  | _ => false

/-- Drives and what looks like the beginning of a path on one. -/
def beginsLikeDrive : List Char → Bool
  | letter :: mark :: rest => isDrive [letter, mark] && (rest.isEmpty || rest.head? == some '\\')
  | _ => false

def shorten : List (List Char) → List (List Char)
  | [] => []
  | segment :: outer => if beginsLikeDrive segment then segment :: outer else outer

/-- A drive and what stands behind a break in the same segment. -/
def partedDrive? (segment : List Char) : Option (List Char × List Char) := do
  let (letter, rest) ← next? segment
  let (mark, rest) ← next? rest
  if letter.isAlpha && mark == ':' && rest.head?.any isBreak && (next? rest).isSome then
    some ([letter, mark], withoutBreaks rest)
  else none

/-- What a segment does to a path: the segments before it, how it is written if it is no dot
segment, and whether it puts the path on a drive. -/
structure Reading where
  before : List (List Char)
  written : Option (List Char)
  onDrive : Bool
  deriving DecidableEq, Repr

/-- The reading of a segment of a file's path that stands where a drive would. A break within it
ends the drive as a slash does. -/
def readFirst (segment : List Char) : Reading :=
  match partedDrive? segment, withoutBreaks segment with
  | some (drive, rest), _ => ⟨[drive], some (Percent.encode Percent.inPath rest), false⟩
  | none, plain =>
      if isDrive plain then ⟨[], some (plain.take 1 ++ [':']), true⟩
      else ⟨[], some (Percent.encode Percent.inPath plain), false⟩

def read (file : Bool) (done : List (List Char)) (segment : List Char) : Reading :=
  let plain := withoutBreaks segment
  if isDoubleDot plain then ⟨shorten done, none, false⟩
  else if isDot plain then ⟨done, none, false⟩
  else if file && done.isEmpty then readFirst segment
  else ⟨done, some (Percent.encode Percent.inPath plain), false⟩

/-- A path in normal form, and whether it is on a drive. -/
structure Folded where
  path : List Char
  onDrive : Bool
  deriving DecidableEq, Repr

def pathText (done : List (List Char)) (last : List Char) : List Char :=
  '/' :: done.reverse.flatMap (fun segment => segment ++ ['/']) ++ last

/-- Goes on from the segments so far, innermost first. -/
def foldSegments (file : Bool) (done : List (List Char)) (onDrive : Bool) :
    List (List Char) → Folded
  | [] => ⟨pathText done [], onDrive⟩
  | [last] =>
      let reading := read file done last
      ⟨pathText reading.before (reading.written.getD []), onDrive || reading.onDrive⟩
  | segment :: rest =>
      let reading := read file done segment
      foldSegments file (reading.written.toList ++ reading.before) (onDrive || reading.onDrive)
        rest

def hierarchicalPath (special : Bool) (text : List Char) : List Char :=
  (foldSegments false [] false (text.splitOnP (isSlash special))).path

/-- The path of a file, which begins with one slash only. -/
def pathOfFile (text : List Char) : Folded :=
  let folded := foldSegments true [] false (text.splitOnP (isSlash true))
  { folded with path := '/' :: folded.path.dropWhile (· == '/') }

end SchemaBinding.Url
