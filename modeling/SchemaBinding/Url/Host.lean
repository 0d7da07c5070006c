import SchemaBinding.Domain
import SchemaBinding.Url.Percent

namespace SchemaBinding.Host

def isForbidden (c : Char) : Bool :=
  ['\x00', '\t', '\n', '\r', ' ', '#', '/', ':', '<', '>', '?', '@', '[', '\\', ']', '^',
    '|'].contains c

def isForbiddenInDomain (c : Char) : Bool :=
  isForbidden c || c.toNat < 0x20 || c == '%' || c.toNat == 0x7F

def digitValue? (radix : Nat) (c : Char) : Option Nat :=
  match Percent.hexValue? c with
  | some value => if value < radix then some value else none
  | none => none

def numberIn? (radix : Nat) (digits : List Char) : Option Nat :=
  digits.foldlM (fun value c => (digitValue? radix c).map (value * radix + ·)) 0

/-- A number in decimal, in octal after `0` or in hexadecimal after `0x`. -/
def number? : List Char → Option Nat
  | [] => none
  | '0' :: 'x' :: digits => numberIn? 16 digits
  | '0' :: 'X' :: digits => numberIn? 16 digits
  | '0' :: d :: digits => numberIn? 8 (d :: digits)
  | digits => numberIn? 10 digits

def labels (domain : List Char) : List (List Char) :=
  domain.splitOnP (· == '.')

def addressLabels (domain : List Char) : List (List Char) :=
  let all := labels domain
  if all.length > 1 && all.getLast? = some [] then all.dropLast else all

def endsInNumber (domain : List Char) : Bool :=
  match (addressLabels domain).getLast? with
  | none => false
  | some last =>
      (!last.isEmpty && last.all Char.isDigit) ||
        (match last with
          | '0' :: 'x' :: digits => (numberIn? 16 digits).isSome
          | '0' :: 'X' :: digits => (numberIn? 16 digits).isSome
          | _ => false)

/-- The last number fills the bytes that the ones before it leave. -/
def addressValue? : List Nat → Option Nat
  | [] => none
  | numbers =>
      let leading := numbers.dropLast
      let last := numbers.getLast?.getD 0
      if numbers.length ≤ 4 && leading.all (· < 256) && last < Nat.pow 256 (5 - numbers.length) then
        some ((List.range leading.length).foldl
          (fun value i => value + leading.getD i 0 * Nat.pow 256 (3 - i)) last)
      else none

def addressText (value : Nat) : List Char :=
  (Text.joinWith "." ([3, 2, 1, 0].map fun i => toString (value / Nat.pow 256 i % 256))).toList

def address? (domain : List Char) : Option (List Char) := do
  let numbers ← (addressLabels domain).mapM number?
  let value ← addressValue? numbers
  return addressText value

def pieceValue? (piece : List Char) : Option Nat :=
  if piece.isEmpty || piece.length > 4 then none else numberIn? 16 piece

/-- The two pieces that a trailing address of four numbers stands for. -/
def quadPieces? (text : List Char) : Option (List Nat) := do
  let numbers ← (labels text).mapM fun label =>
    if label.isEmpty || label.length > 3 || (label.length > 1 && label.head? = some '0') then
      none
    else numberIn? 10 label
  match numbers with
  | [a, b, c, d] =>
      if a < 256 && b < 256 && c < 256 && d < 256 then some [a * 256 + b, c * 256 + d] else none
  | _ => none

def groups? (text : List Char) : Option (List Nat) :=
  if text.isEmpty then some []
  else
    let parts := text.splitOnP (· == ':')
    match parts.getLast? with
    | none => some []
    | some last =>
        if last.contains '.' then do
          let front ← parts.dropLast.mapM pieceValue?
          let back ← quadPieces? last
          return front ++ back
        else parts.mapM pieceValue?

def cutDouble? : List Char → Option (List Char × List Char)
  | ':' :: ':' :: rest => some ([], rest)
  | c :: rest => (cutDouble? rest).map fun cut => (c :: cut.1, cut.2)
  | [] => none

def pieces? (text : List Char) : Option (List Nat) :=
  match cutDouble? text with
  | none => (groups? text).filter fun groups => groups.length == 8
  | some (before, after) => do
      let front ← groups? before
      let back ← groups? after
      if front.length + back.length < 8 && !before.contains '.' then
        some (front ++ List.replicate (8 - front.length - back.length) 0 ++ back)
      else none

/-- The first longest run of zeros, as start and length. -/
def longestZeros (pieces : List Nat) : Nat × Nat :=
  (List.range pieces.length).foldl
    (fun best i =>
      let run := ((pieces.drop i).takeWhile (· == 0)).length
      if run > best.2 then (i, run) else best)
    (0, 0)

def hexText (value : Nat) : String :=
  String.ofList ((Nat.toDigits 16 value))

def piecesText (pieces : List Nat) : List Char :=
  let (start, run) := longestZeros pieces
  if run < 2 then (Text.joinWith ":" (pieces.map hexText)).toList
  else
    (Text.joinWith ":" ((pieces.take start).map hexText) ++ "::" ++
      Text.joinWith ":" ((pieces.drop (start + run)).map hexText)).toList

def bracketed? (text : List Char) : Option (List Char) := do
  if text.getLast? ≠ some ']' then none
  let pieces ← pieces? (text.drop 1).dropLast
  return '[' :: piecesText pieces ++ [']']

/-- The host of a URL with a well-known scheme: a domain in lower case or an address. -/
def domain? (text : List Char) : Option (List Char) :=
  if text.head? = some '[' then bracketed? text
  else do
    let domain ← Domain.ascii? (← Percent.decode? text)
    if domain.isEmpty || domain.any isForbiddenInDomain then none
    else if endsInNumber domain then address? domain
    else some domain

def opaque? (text : List Char) : Option (List Char) :=
  if text.head? = some '[' then bracketed? text
  else if text.any isForbidden then none
  else some (Percent.encode Percent.isControl text)

end SchemaBinding.Host
