import SchemaBinding.Json.Value

namespace SchemaBinding.JsonValue

def isSpace (c : Char) : Bool :=
  c == ' ' || c == '\n' || c == '\t' || c == '\r'

def skipSpace (text : List Char) : List Char :=
  text.dropWhile isSpace

/-- One code unit or character of a string. -/
inductive Unit16
  | char (c : Char)
  | half (number : Nat)
  deriving DecidableEq, Repr

def hexValue? (c : Char) : Option Nat :=
  if c.isDigit then some (c.toNat - 48)
  else if 'a' ≤ c && c ≤ 'f' then some (c.toNat - 87)
  else if 'A' ≤ c && c ≤ 'F' then some (c.toNat - 55)
  else none

def unitOf (number : Nat) : Unit16 :=
  if 0xD800 ≤ number && number ≤ 0xDFFF then .half number else .char (Char.ofNat number)

/-- What a backslash and the characters after it stand for. -/
def escape? : List Char → Option (Unit16 × List Char)
  | '"' :: rest => some (.char '"', rest)
  | '\\' :: rest => some (.char '\\', rest)
  | '/' :: rest => some (.char '/', rest)
  | 'b' :: rest => some (.char '\x08', rest)
  | 'f' :: rest => some (.char '\x0c', rest)
  | 'n' :: rest => some (.char '\n', rest)
  | 'r' :: rest => some (.char '\r', rest)
  | 't' :: rest => some (.char '\t', rest)
  | 'u' :: a :: b :: c :: d :: rest => do
      let digits ← [a, b, c, d].mapM hexValue?
      return (unitOf (digits.foldl (fun value digit => 16 * value + digit) 0), rest)
  | _ => none

/-- The units up to the closing quote. -/
def units? : Nat → List Unit16 → List Char → Option (List Unit16 × List Char)
  | 0, _, _ => none
  | _ + 1, _, [] => none
  | _ + 1, done, '"' :: rest => some (done.reverse, rest)
  | fuel + 1, done, '\\' :: rest => do
      let (unit, rest) ← escape? rest
      units? fuel (unit :: done) rest
  | fuel + 1, done, c :: rest =>
      if c.toNat < 0x20 then none else units? fuel (.char c :: done) rest

def charsOf? : List Unit16 → Option (List Char)
  | [] => some []
  | .char c :: rest => (charsOf? rest).map (c :: ·)
  | .half high :: .half low :: rest =>
      if high < 0xDC00 && 0xDC00 ≤ low then
        (charsOf? rest).map
          (Char.ofNat (0x10000 + (high - 0xD800) * 0x400 + (low - 0xDC00)) :: ·)
      else none
  | .half _ :: _ => none

def stringRest? (text : List Char) : Option (Option String × List Char) := do
  let (units, rest) ← units? (text.length + 1) [] text
  return ((charsOf? units).map String.ofList, rest)

def digits? (text : List Char) : Option (List Char × List Char) :=
  if (text.takeWhile Char.isDigit).isEmpty then none
  else some (text.takeWhile Char.isDigit, text.dropWhile Char.isDigit)

def integer? : List Char → Option (List Char × List Char)
  | '0' :: rest => if rest.head?.any Char.isDigit then none else some (['0'], rest)
  | text => digits? text

def fraction? : List Char → Option (List Char × List Char)
  | '.' :: rest => (digits? rest).map fun (digits, rest) => ('.' :: digits, rest)
  | text => some ([], text)

def exponentDigits? : List Char → Option (List Char × List Char)
  | '+' :: rest => (digits? rest).map fun (digits, rest) => ('+' :: digits, rest)
  | '-' :: rest => (digits? rest).map fun (digits, rest) => ('-' :: digits, rest)
  | text => digits? text

def exponent? : List Char → Option (List Char × List Char)
  | 'e' :: rest => (exponentDigits? rest).map fun (digits, rest) => ('e' :: digits, rest)
  | 'E' :: rest => (exponentDigits? rest).map fun (digits, rest) => ('E' :: digits, rest)
  | text => some ([], text)

def sign : List Char → List Char × List Char
  | '-' :: rest => (['-'], rest)
  | text => ([], text)

def number? (text : List Char) : Option (String × List Char) := do
  let (minus, rest) := sign text
  let (whole, rest) ← integer? rest
  let (decimals, rest) ← fraction? rest
  let (power, rest) ← exponent? rest
  return (String.ofList (minus ++ whole ++ decimals ++ power), rest)

def mark? (c : Char) (text : List Char) : Option (List Char) :=
  match skipSpace text with
  | d :: rest => if d = c then some rest else none
  | [] => none

def key? (text : List Char) : Option (Option String × List Char) := do
  let rest ← mark? '"' text
  let (key, rest) ← stringRest? rest
  return (key, ← mark? ':' rest)

mutual

def value? : Nat → List Char → Option (JsonValue × List Char)
  | 0, _ => none
  | fuel + 1, text =>
      match skipSpace text with
      | 'n' :: 'u' :: 'l' :: 'l' :: rest => some (.null, rest)
      | 't' :: 'r' :: 'u' :: 'e' :: rest => some (.bool true, rest)
      | 'f' :: 'a' :: 'l' :: 's' :: 'e' :: rest => some (.bool false, rest)
      | '"' :: rest => do
          let (text, rest) ← stringRest? rest
          return (.string text, rest)
      | '[' :: rest =>
          match mark? ']' rest with
          | some rest => some (.array [], rest)
          | none => do
              let (items, rest) ← items? fuel [] rest
              return (.array items, rest)
      | '\x7b' :: rest =>
          match mark? '\x7d' rest with
          | some rest => some (.object [], rest)
          | none => do
              let (members, rest) ← members? fuel [] rest
              return (.object members, rest)
      | other => do
          let (literal, rest) ← number? other
          return (.number literal, rest)

def items? : Nat → List JsonValue → List Char → Option (List JsonValue × List Char)
  | 0, _, _ => none
  | fuel + 1, done, text => do
      let (item, rest) ← value? fuel text
      match skipSpace rest with
      | ',' :: rest => items? fuel (item :: done) rest
      | ']' :: rest => some ((item :: done).reverse, rest)
      | _ => none

def members? : Nat → List (Option String × JsonValue) → List Char →
    Option (List (Option String × JsonValue) × List Char)
  | 0, _, _ => none
  | fuel + 1, done, text => do
      let (key, rest) ← key? text
      let (value, rest) ← value? fuel rest
      match skipSpace rest with
      | ',' :: rest => members? fuel ((key, value) :: done) rest
      | '\x7d' :: rest => some (((key, value) :: done).reverse, rest)
      | _ => none

end

/-- The value that a text is, with nothing but white space around it. -/
def ofText? (text : String) : Option JsonValue := do
  let chars := text.toList
  -- every value takes a character at least, so the fuel is enough
  let (value, rest) ← value? (2 * chars.length + 2) chars
  if (skipSpace rest).isEmpty then some value else none

end SchemaBinding.JsonValue
