import SchemaBinding.Domain.CompositionRows
import SchemaBinding.Domain.Rows

namespace SchemaBinding.Domain

structure Pair where
  whole : Nat
  first : Nat
  second : Nat
  deriving DecidableEq, Repr

/-- A pair whose first part is itself a whole stands before the pair of that part. -/
def pairs : List Pair :=
  (listsOf pairRows).filterMap fun
    | (whole, [first, second]) => some ⟨whole, first, second⟩
    | _ => none

/-! Korean syllables are made of their letters by a rule. -/

def isSyllable (code : Nat) : Bool :=
  0xAC00 ≤ code && code < 0xAC00 + 11172

def syllableLetters (code : Nat) : List Nat :=
  let index := code - 0xAC00
  [0x1100 + index / 588, 0x1161 + index % 588 / 28] ++
    (if index % 28 = 0 then [] else [0x11A7 + index % 28])

def syllable? (first second : Nat) : Option Nat :=
  if 0x1100 ≤ first && first < 0x1113 && 0x1161 ≤ second && second < 0x1176 then
    some (0xAC00 + ((first - 0x1100) * 21 + (second - 0x1161)) * 28)
  else if isSyllable first && (first - 0xAC00) % 28 == 0 && 0x11A8 ≤ second && second < 0x11C3 then
    some (first + (second - 0x11A7))
  else none

def partsIn : List Pair → Nat → List Nat
  | [], code => [code]
  | pair :: rest, code =>
      if pair.whole = code then partsIn rest pair.first ++ [pair.second] else partsIn rest code

def parts (code : Nat) : List Nat :=
  if code < 128 then [code]
  else if isSyllable code then syllableLetters code
  else partsIn pairs code

def whole? (first second : Nat) : Option Nat :=
  match syllable? first second with
  | some code => some code
  | none =>
      (pairs.find? fun pair => pair.first == first && pair.second == second).map Pair.whole

def markClasses : List ((Nat × Nat) × Nat) :=
  numberedRangesOf classRows

def markClass (code : Nat) : Nat :=
  ((markClasses.find? fun entry => entry.1.1 ≤ code && code ≤ entry.1.2).map Prod.snd).getD 0

/-- Puts a mark behind those of lower classes. -/
def placeMark (mark : Nat) : List Nat → List Nat
  | [] => [mark]
  | code :: rest =>
      if 0 < markClass code && markClass code < markClass mark then
        code :: placeMark mark rest
      else mark :: code :: rest

def ordered (codes : List Nat) : List Nat :=
  codes.foldr placeMark []

/-- Joins what follows a character to it. The marks that could not be joined are kept, the last
one first, and no mark passes one of its class or of a higher one. -/
def joinFrom (base : Nat) (kept : List Nat) : List Nat → List Nat
  | [] => base :: kept.reverse
  | code :: rest =>
      let blocked :=
        match kept with
        | [] => false
        | last :: _ => markClass code ≤ markClass last
      match if blocked then none else whole? base code with
      | some whole => joinFrom whole kept rest
      | none =>
          if markClass code = 0 then base :: kept.reverse ++ joinFrom code [] rest
          else joinFrom base (code :: kept) rest

/-- Every character is taken apart, marks on one letter are put in the order of their classes, and
what has a character of its own is joined. -/
def composed (text : List Char) : List Char :=
  match ordered (text.flatMap fun c => parts c.toNat) with
  | [] => []
  | first :: rest => (joinFrom first [] rest).map Char.ofNat

end SchemaBinding.Domain
