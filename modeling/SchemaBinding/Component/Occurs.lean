import SchemaBinding.Error
import SchemaBinding.Text.Blank

namespace SchemaBinding

/-- How often a particle may occur; without a greatest count there is no bound. -/
structure Occurs where
  least : Nat := 1
  greatest : Option Nat := some 1
  deriving DecidableEq, Repr

namespace Occurs

def once : Occurs := {}

def ceiling : Nat := Nat.pow 2 64 - 1

def unsigned : List Char → List Char
  | '+' :: rest => rest
  | text => text

def addDigit? (value : Nat) (c : Char) : Option Nat :=
  if c.isDigit then
    let next := value * 10 + (c.toNat - '0'.toNat)
    if next ≤ ceiling then some next else none
  else none

/-- Reads a number digit by digit, up to the ceiling. -/
def word? (text : List Char) : Option Nat :=
  if (unsigned text).isEmpty then none else (unsigned text).foldlM addDigit? 0

/-- An optional plus sign and ASCII digits. What cannot be read of these is the ceiling. -/
def count? (text : String) : Option Nat :=
  let digits := unsigned text.toList
  if !digits.isEmpty && digits.all Char.isDigit then some ((word? digits).getD ceiling)
  else none

def readLeast : Option String → Except BoundFault Nat
  | none => .ok 1
  | some text =>
      match count? (Text.trim text) with
      | some count => .ok count
      | none => .error (.least (Text.trim text))

def readGreatest : Option String → Except BoundFault (Option Nat)
  | none => .ok (some 1)
  | some text =>
      if Text.trim text = "unbounded" then .ok none
      else
        match count? (Text.trim text) with
        | some count => .ok (some count)
        | none => .error (.greatest (Text.trim text))

/-- The bounds given by `minOccurs` and `maxOccurs`; a fault of the first is reported first. -/
def read (least greatest : Option String) : Except BoundFault Occurs := do
  let low ← readLeast least
  let high ← readGreatest greatest
  return ⟨low, high⟩

def isEmptiable (occurs : Occurs) : Bool :=
  occurs.least == 0

/-- Any greatest count but one repeats, zero included. -/
def isRepeated (occurs : Occurs) : Bool :=
  occurs.greatest != some 1

end Occurs

end SchemaBinding
