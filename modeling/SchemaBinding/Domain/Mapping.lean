import SchemaBinding.Domain.MappingRows
import SchemaBinding.Domain.Rows
import SchemaBinding.Domain.SpellingRows
import SchemaBinding.Text.Blank

namespace SchemaBinding.Domain

/-- Code points from `first` to `last` that move by the same distance. -/
structure Shift where
  first : Nat
  last : Nat
  step : Nat
  target : Nat
  deriving DecidableEq, Repr

namespace Shift

def ofEntry (entry : List Char) : Shift :=
  let (sources, target) := cutAt '>' entry
  let (range, step) := cutAt '/' sources
  let (first, last) := rangeOf range
  ⟨first, last, if step.isEmpty then 1 else numberOf step, numberOf target⟩

def covers (shift : Shift) (code : Nat) : Bool :=
  shift.first ≤ code && code ≤ shift.last && (code - shift.first) % shift.step == 0

def apply (shift : Shift) (code : Nat) : Nat :=
  shift.target + (code - shift.first)

end Shift

def shifts : List Shift :=
  (entriesOf shiftRows).map Shift.ofEntry

def spellings : List (Nat × List Nat) :=
  listsOf spellingRows

def dropped : List (Nat × Nat) :=
  rangesOf droppedRows

def barred : List (Nat × Nat) :=
  rangesOf barredRows

def wideReading? (c : Char) : Option (List Char) :=
  match spellings.lookup c.toNat with
  | some codes => some (codes.map Char.ofNat)
  | none =>
      match shifts.find? fun shift => shift.covers c.toNat with
      | some shift => some [Char.ofNat (shift.apply c.toNat)]
      | none =>
          if Text.inRanges dropped c then some []
          else if Text.inRanges barred c then none
          else some [c]

def reading? (c : Char) : Option (List Char) :=
  if c.toNat < 128 then some [c.toLower] else wideReading? c

def readings? (text : List Char) : Option (List Char) :=
  (text.mapM reading?).map List.flatten

end SchemaBinding.Domain
