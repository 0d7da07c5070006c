import SchemaBinding.Text.Pieces

namespace SchemaBinding.Punycode

def threshold (place bias : Nat) : Nat :=
  if place ≤ bias then 1 else min 26 (place - bias)

def digit (value : Nat) : Char :=
  if value < 26 then Char.ofNat (97 + value) else Char.ofNat (22 + value)

def digitValue? (c : Char) : Option Nat :=
  if 'a'.toNat ≤ c.toNat && c.toNat ≤ 'z'.toNat then some (c.toNat - 97)
  else if c.isDigit then some (c.toNat - 22)
  else none

theorem threshold_pos (place bias : Nat) : 0 < threshold place bias := by
  rw [threshold]
  split <;> omega

def gapDigits (gap place bias : Nat) : List Char :=
  let least := threshold place bias
  if gap < least then [digit gap]
  else
    digit (least + (gap - least) % (36 - least)) ::
      gapDigits ((gap - least) / (36 - least)) (place + 36) bias
termination_by gap
decreasing_by
  have hpos := threshold_pos place bias
  exact Nat.lt_of_le_of_lt (Nat.div_le_self _ _) (by omega)

def adaptLoop (delta place : Nat) : Nat :=
  if 455 < delta then adaptLoop (delta / 35) (place + 36)
  else place + 36 * delta / (delta + 38)
termination_by delta
decreasing_by omega

/-- The bias after a gap, from the number of characters so far. -/
def adapt (gap count : Nat) (first : Bool) : Nat :=
  let delta := if first then gap / 700 else gap / 2
  adaptLoop (delta + delta / count) 0

structure Encoding where
  gap : Nat
  bias : Nat
  handled : Nat
  out : List Char

/-- One pass over the label for one code point. -/
def Encoding.pass (basic code : Nat) (state : Encoding) (c : Char) : Encoding :=
  if c.toNat < code then { state with gap := state.gap + 1 }
  else if c.toNat = code then
    { gap := 0
      bias := adapt state.gap (state.handled + 1) (state.handled == basic)
      handled := state.handled + 1
      out := state.out ++ gapDigits state.gap 36 state.bias }
  else state

def encode (label : List Char) : List Char :=
  let plain := label.filter fun c => c.toNat < 128
  let codes := (((label.map Char.toNat).filter (128 ≤ ·)).mergeSort (· ≤ ·)).eraseDups
  let start : Encoding × Nat := (⟨0, 72, plain.length, []⟩, 128)
  let result := codes.foldl
    (fun (state, next) code =>
      let opened := { state with gap := state.gap + (code - next) * (state.handled + 1) }
      let passed := label.foldl (Encoding.pass plain.length code) opened
      ({ passed with gap := passed.gap + 1 }, code + 1))
    start
  plain ++ (if plain.isEmpty then [] else ['-']) ++ result.1.out

/-- A label that is being read: its characters, the last code point and where the next character
goes, and the number that is being read, with where it began. -/
structure Decoding where
  out : List Char
  code : Nat
  position : Nat
  began : Nat
  weight : Nat
  place : Nat
  bias : Nat

/-- Puts in the character that a finished number stands for. -/
def Decoding.insert? (state : Decoding) : Option Decoding :=
  let count := state.out.length + 1
  let code := state.code + state.position / count
  let index := state.position % count
  if code.isValidChar then
    some
      { out := state.out.insertIdx index (Char.ofNat code)
        code := code
        position := index + 1
        began := index + 1
        weight := 1
        place := 36
        bias := adapt (state.position - state.began) count (state.began == 0) }
  else none

def Decoding.step? (state : Decoding) (c : Char) : Option Decoding := do
  let value ← digitValue? c
  let least := threshold state.place state.bias
  let longer := { state with position := state.position + value * state.weight }
  if value < least then longer.insert?
  else return { longer with weight := state.weight * (36 - least), place := state.place + 36 }

def decode? (text : List Char) : Option (List Char) := do
  let (plain, digits) :=
    match Text.cutLast '-' text with
    | some (c :: plain, digits) => (c :: plain, digits)
    | _ => ([], text)
  let start : Decoding := ⟨plain, 128, 0, 0, 1, 36, 72⟩
  let result ← digits.foldlM Decoding.step? start
  if result.place = 36 then some result.out else none

end SchemaBinding.Punycode
