import SchemaBinding.Xml.Char

namespace SchemaBinding.Xml

/-- One character of data, as written or by reference. -/
inductive Piece
  | written (c : Char)
  | referred (c : Char)
  deriving DecidableEq, Repr

def hexValue? (c : Char) : Option Nat :=
  if c.isDigit then some (c.toNat - 48)
  else if 'a'.toNat ≤ c.toNat && c.toNat ≤ 'f'.toNat then some (c.toNat - 87)
  else if 'A'.toNat ≤ c.toNat && c.toNat ≤ 'F'.toNat then some (c.toNat - 55)
  else none

def digitIn? (radix : Nat) (c : Char) : Option Nat :=
  (hexValue? c).filter (· < radix)

/-- The leading number, if it has a digit and fits 32 bits, and what follows it. -/
def number? (radix : Nat) (text : List Char) : Option (Nat × List Char) :=
  let digits := text.takeWhile fun c => (digitIn? radix c).isSome
  let value := digits.foldl (fun value c => value * radix + (digitIn? radix c).getD 0) 0
  if digits.isEmpty || Nat.pow 2 32 ≤ value then none
  else some (value, text.drop digits.length)

/-- The character with a number; a number that is no character's stands for U+FFFD. -/
def charOf (number : Nat) : Char :=
  if number.isValidChar then Char.ofNat number else '\uFFFD'

def entity? (name : String) : Option Char :=
  [("quot", '"'), ("amp", '&'), ("apos", '\''), ("lt", '<'), ("gt", '>')].lookup name

/-- The reference that follows an ampersand, up to its semicolon, and the text after it. -/
def reference (text : List Char) : Except Fault (Char × List Char) := do
  let (c, rest) ←
    match text with
    | '#' :: 'x' :: digits => numbered 16 digits
    | '#' :: digits => numbered 10 digits
    | start :: _ =>
        if !isNameStart start then throw .badReference
        let name := text.takeWhile isNamePart
        match entity? (String.ofList name) with
        | some c => pure (c, text.drop name.length)
        | none => throw (.unknownEntity (String.ofList name))
    | [] => throw .badReference
  match rest with
  | ';' :: after => return (c, after)
  | _ => throw .badReference
where
  numbered (radix : Nat) (digits : List Char) : Except Fault (Char × List Char) :=
    match number? radix digits with
    | none => .error .badReference
    | some (value, after) =>
        if isChar (charOf value) then .ok (charOf value, after) else .error .badReference

def referredPieces (text : List Char) : Except Fault (List Piece) := do
  let (c, after) ← reference text
  return .referred c :: after.map .written

/-- The characters of a text with its references resolved. -/
def pieces (text : List Char) : Except Fault (List Piece) :=
  match text.splitOnP (· == '&') with
  | [] => .ok []
  | first :: others => do
      let referred ← others.mapM referredPieces
      return first.map .written ++ referred.flatten

/-! Attribute values: a line end or tab becomes one space. -/

def valueChars : List Piece → List Char
  | [] => []
  | .written '\r' :: .written '\n' :: rest => valueChars (.written '\n' :: rest)
  | .written c :: rest =>
      (if c == '\n' || c == '\r' || c == '\t' then ' ' else c) :: valueChars rest
  | .referred c :: rest => c :: valueChars rest

def attributeValue (text : List Char) : Except Fault String := do
  return String.ofList (valueChars (← pieces text))

/-! Text: a line end becomes a line feed. -/

def addChar (done : List Char) (c : Char) (isLast : Bool) : List Char :=
  let added := if isLast && c == '\r' then '\n' else c
  match done with
  | '\r' :: before =>
      if c == '\n' then '\n' :: before else added :: '\n' :: before
  | _ => added :: done

/-- The text so far, newest first. After a referred character, the next written one is taken as
it is. -/
def addPieces (done : List Char) (afterReferred : Bool) : List Piece → List Char
  | [] => done
  | .referred c :: rest => addPieces (c :: done) true rest
  | .written c :: rest =>
      if afterReferred then addPieces (c :: done) false rest
      else addPieces (addChar done c rest.isEmpty) false rest

def textValue (text : List Char) : Except Fault String := do
  return String.ofList (addPieces [] false (← pieces text)).reverse

def sectionValue (text : List Char) : String :=
  String.ofList (addPieces [] false (text.map .written)).reverse

end SchemaBinding.Xml
