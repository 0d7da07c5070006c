import SchemaBinding.Domain.Composition
import SchemaBinding.Domain.Direction
import SchemaBinding.Domain.Mapping
import SchemaBinding.Domain.Punycode

namespace SchemaBinding.Domain

def isAscii (label : List Char) : Bool :=
  label.all fun c => c.toNat < 128

def wideMarks : List (Nat × Nat) :=
  rangesOf wideMarkRows

def isMark (c : Char) : Bool :=
  Text.inRanges thinMarks c || Text.inRanges wideMarks c

/-! Joiners: invisible characters that ask for joined or for separate forms of letters. -/

def joiningBoth : List (Nat × Nat) :=
  rangesOf joiningBothRows

def joiningBefore : List (Nat × Nat) :=
  rangesOf joiningBeforeRows

def joiningAfter : List (Nat × Nat) :=
  rangesOf joiningAfterRows

def isTransparent (c : Char) : Bool :=
  Text.inRanges thinMarks c || c.toNat == 0x1E94B

def joinsNext (c : Char) : Bool :=
  Text.inRanges joiningBoth c || Text.inRanges joiningAfter c

def joinsPrevious (c : Char) : Bool :=
  Text.inRanges joiningBoth c || Text.inRanges joiningBefore c

/-- Whether a mark takes away the vowel of its letter, so that joiners make sense after it. -/
def isVirama (c : Char) : Bool :=
  markClass c.toNat == 9

/-- Whether the joiners of a label have a use where they are. The characters before are given with
the nearest first. -/
def joinersFit (before : List Char) : List Char → Bool
  | [] => true
  | c :: rest =>
      let afterVirama := before.head?.any isVirama
      let fits :=
        if c == '\u200D' then afterVirama
        else if c == '\u200C' then
          afterVirama || ((before.find? fun d => !isTransparent d).any joinsNext &&
            (rest.find? fun d => !isTransparent d).any joinsPrevious)
        else true
      fits && joinersFit (c :: before) rest

def maxLabelLength : Nat :=
  1000

def maxEncodedLength : Nat :=
  2000

def isValid (label : List Char) : Bool :=
  label.length ≤ maxLabelLength && !label.head?.any isMark && joinersFit [] label

def asciiSign : List Char :=
  "xn--".toList

/-- Whether a label needs an ASCII form and is not read as another label. -/
def isPlain (label : List Char) : Bool :=
  !isAscii label && !asciiSign.isPrefixOf label && readings? label == some label &&
    composed label == label

def ofAscii? (label : List Char) : Option (List Char) :=
  let encoded := label.drop asciiSign.length
  if maxEncodedLength < encoded.length then none
  else (Punycode.decode? encoded).filter isPlain

def meant? (label : List Char) : Option (List Char) :=
  if asciiSign.isPrefixOf label then (if isAscii label then ofAscii? label else none)
  else some label

def toAscii (label : List Char) : List Char :=
  if isAscii label then label else asciiSign ++ Punycode.encode label

end SchemaBinding.Domain
