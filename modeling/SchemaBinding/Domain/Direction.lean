import SchemaBinding.Domain.PropertyRows
import SchemaBinding.Domain.Rows
import SchemaBinding.Text.Blank

namespace SchemaBinding.Domain

/-- Separators, signs and other characters without a direction of their own are one class: the
rule treats them alike. So are the letters of all scripts that run to the left. -/
inductive Direction
  | leftToRight
  | rightToLeft
  | europeanNumber
  | arabicNumber
  | neutral
  | mark
  deriving DecidableEq, Repr

def thinMarks : List (Nat × Nat) :=
  rangesOf thinMarkRows

def forwardMarks : List (Nat × Nat) :=
  rangesOf forwardMarkRows

def rightToLeft : List (Nat × Nat) :=
  rangesOf rightToLeftRows

def arabicNumbers : List (Nat × Nat) :=
  rangesOf arabicNumberRows

def europeanNumbers : List (Nat × Nat) :=
  rangesOf europeanNumberRows

def neutrals : List (Nat × Nat) :=
  rangesOf neutralRows

def direction (c : Char) : Direction :=
  if c.toNat < 128 then
    if c.isAlpha then .leftToRight else if c.isDigit then .europeanNumber else .neutral
  else if Text.inRanges thinMarks c then
    if Text.inRanges forwardMarks c then .leftToRight else .mark
  else if Text.inRanges rightToLeft c then .rightToLeft
  else if Text.inRanges arabicNumbers c then .arabicNumber
  else if Text.inRanges europeanNumbers c then .europeanNumber
  else if Text.inRanges neutrals c then .neutral
  else .leftToRight

/-- Whether some character makes the rule apply to the whole domain. -/
def runsLeft (label : List Char) : Bool :=
  label.any fun c => direction c = .rightToLeft || direction c = .arabicNumber

/-- The rule for one label, from its directions. A label has the direction of its first letter;
it holds nothing of the other direction and ends, marks aside, with a letter or a digit. -/
def obeysRule : List Direction → Bool
  | [] => true
  | first :: rest =>
      let last := ((first :: rest).reverse.find? (· != .mark)).getD first
      match first with
      | .leftToRight =>
          rest.all (fun d => d != .rightToLeft && d != .arabicNumber) &&
            (last == .leftToRight || last == .europeanNumber)
      | .rightToLeft =>
          rest.all (· != .leftToRight) && last != .neutral &&
            !(rest.contains .arabicNumber && rest.contains .europeanNumber)
      | _ => false

def directionsAgree (labels : List (List Char)) : Bool :=
  !labels.any runsLeft || labels.all fun label => obeysRule (label.map direction)

end SchemaBinding.Domain
