import SchemaBinding.Text.Pieces
import SchemaBinding.Url.Percent

namespace SchemaBinding.Domain

def numberOf (digits : List Char) : Nat :=
  digits.foldl (fun value c => value * 16 + (Percent.hexValue? c).getD 0) 0

/-- The entries of rows, which have a blank between them; all numbers in them are hexadecimal. -/
def entriesOf (rows : List String) : List (List Char) :=
  rows.flatMap fun row => row.toList.splitOnP (· == ' ')

/-- What stands before and behind the mark; without one there is nothing behind it. -/
def cutAt (mark : Char) (text : List Char) : List Char × List Char :=
  (Text.cutFirst mark text).getD (text, [])

def rangeOf (entry : List Char) : Nat × Nat :=
  let (first, last) := cutAt '-' entry
  (numberOf first, if last.isEmpty then numberOf first else numberOf last)

def rangesOf (rows : List String) : List (Nat × Nat) :=
  (entriesOf rows).map rangeOf

def numberedRangesOf (rows : List String) : List ((Nat × Nat) × Nat) :=
  (entriesOf rows).map fun entry =>
    let (range, number) := cutAt '>' entry
    (rangeOf range, numberOf number)

/-- Code points with a list of others for each. An entry holds the lists of its code point and of
those that follow it. -/
def listsOf (rows : List String) : List (Nat × List Nat) :=
  (entriesOf rows).flatMap fun entry =>
    let (first, lists) := cutAt '>' entry
    ((lists.splitOnP (· == ',')).zipIdx (numberOf first)).map fun (list, code) =>
      (code, (list.splitOnP (· == '.')).map numberOf)

end SchemaBinding.Domain
