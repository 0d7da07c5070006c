import SchemaBinding.Text.Bytes

namespace SchemaBinding.Percent

def isControl (c : Char) : Bool :=
  c.toNat < 0x20 || 0x7F ≤ c.toNat

def inFragment (c : Char) : Bool :=
  isControl c || [' ', '"', '<', '>', '`'].contains c

def inQuery (c : Char) : Bool :=
  isControl c || [' ', '"', '#', '<', '>'].contains c

def inSpecialQuery (c : Char) : Bool :=
  inQuery c || c == '\''

def inPath (c : Char) : Bool :=
  inFragment c || ['#', '?', '\x7b', '\x7d'].contains c

def inUserinfo (c : Char) : Bool :=
  inPath c || ['/', ':', ';', '=', '@', '[', '\\', ']', '^', '|'].contains c

def hexDigit (value : Nat) : Char :=
  if value < 10 then Char.ofNat (48 + value) else Char.ofNat (55 + value)

def encodeByte (byte : UInt8) : List Char :=
  ['%', hexDigit (byte.toNat / 16), hexDigit (byte.toNat % 16)]

def encodeChar (c : Char) : List Char :=
  (String.singleton c).toUTF8.toList.flatMap encodeByte

def encode (inSet : Char → Bool) (text : List Char) : List Char :=
  text.flatMap fun c => if inSet c then encodeChar c else [c]

def hexValue? (c : Char) : Option Nat :=
  if c.isDigit then some (c.toNat - 48)
  else if 'a'.toNat ≤ c.toNat && c.toNat ≤ 'f'.toNat then some (c.toNat - 87)
  else if 'A'.toNat ≤ c.toNat && c.toNat ≤ 'F'.toNat then some (c.toNat - 55)
  else none

/-- The bytes of a text in which `%` and two hexadecimal digits stand for a byte. -/
def decodeBytes : List Char → List UInt8
  | '%' :: high :: low :: rest =>
      match hexValue? high, hexValue? low with
      | some h, some l => UInt8.ofNat (h * 16 + l) :: decodeBytes rest
      | _, _ => '%'.toNat.toUInt8 :: decodeBytes (high :: low :: rest)
  | c :: rest => (String.singleton c).toUTF8.toList ++ decodeBytes rest
  | [] => []

def decode (text : List Char) : List Char :=
  Text.mend (decodeBytes text)

/-- The decoded text, if its bytes are text. -/
def decode? (text : List Char) : Option (List Char) :=
  (String.fromUTF8? ⟨(decodeBytes text).toArray⟩).map String.toList

end SchemaBinding.Percent
