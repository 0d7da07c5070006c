namespace SchemaBinding.Text

/-- A character of which bytes are still missing: how many, the range of the next one, and the
value of those before. -/
structure Unfinished where
  missing : Nat
  least : Nat
  greatest : Nat
  value : Nat
  deriving DecidableEq, Repr

def replacement : Char :=
  '\ufffd'

/-- The character that a byte above the ASCII ones begins. The second byte is kept from making
overlong forms, surrogates and values that are too large. -/
def unfinished? (byte : Nat) : Option Unfinished :=
  if byte < 0xC2 then none
  else if byte < 0xE0 then some ⟨1, 0x80, 0xBF, byte - 0xC0⟩
  else if byte < 0xF0 then
    some ⟨2, if byte = 0xE0 then 0xA0 else 0x80, if byte = 0xED then 0x9F else 0xBF, byte - 0xE0⟩
  else if byte < 0xF5 then
    some ⟨3, if byte = 0xF0 then 0x90 else 0x80, if byte = 0xF4 then 0x8F else 0xBF, byte - 0xF0⟩
  else none

/-- What a byte gives that continues no character. -/
def beginning (byte : Nat) : List Char × Option Unfinished :=
  if byte < 0x80 then ([Char.ofNat byte], none)
  else
    match unfinished? byte with
    | some begun => ([], some begun)
    | none => ([replacement], none)

def mendFrom : Option Unfinished → List UInt8 → List Char
  | none, [] => []
  | some _, [] => [replacement]
  | none, byte :: rest =>
      let (out, next) := beginning byte.toNat
      out ++ mendFrom next rest
  | some ⟨missing, least, greatest, value⟩, byte :: rest =>
      if least ≤ byte.toNat && byte.toNat ≤ greatest then
        let longer := value * 64 + byte.toNat % 64
        if missing ≤ 1 then Char.ofNat longer :: mendFrom none rest
        else mendFrom (some ⟨missing - 1, 0x80, 0xBF, longer⟩) rest
      else
        let (out, next) := beginning byte.toNat
        replacement :: out ++ mendFrom next rest

/-- The text of some bytes, replacement characters standing where they are no text. -/
def mend (bytes : List UInt8) : List Char :=
  mendFrom none bytes

end SchemaBinding.Text
