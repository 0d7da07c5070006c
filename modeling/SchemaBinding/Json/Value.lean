import SchemaBinding.Text.Pieces

namespace SchemaBinding

inductive JsonValue
  | null
  | bool (value : Bool)
  | number (literal : String)
  /-- A string is none where an escape stands for half a character. -/
  | string (text : Option String)
  | array (items : List JsonValue)
  | object (members : List (Option String × JsonValue))
  deriving Repr

namespace JsonValue

def text (text : String) : JsonValue := .string (some text)

def member (key : String) (value : JsonValue) : Option String × JsonValue :=
  (some key, value)

def hexDigit (value : Nat) : Char :=
  "0123456789abcdef".toList.getD value '0'

def escapeChar (c : Char) : List Char :=
  match c with
  | '"' => ['\\', '"']
  | '\\' => ['\\', '\\']
  | '\n' => ['\\', 'n']
  | '\r' => ['\\', 'r']
  | '\t' => ['\\', 't']
  | '\x08' => ['\\', 'b']
  | '\x0c' => ['\\', 'f']
  | _ =>
      if c.toNat < 0x20 then
        ['\\', 'u', '0', '0', hexDigit (c.toNat / 16), hexDigit (c.toNat % 16)]
      else [c]

def stringText (text : String) : String :=
  String.ofList ('"' :: (text.toList.flatMap escapeChar ++ ['"']))

def indent (depth : Nat) : String :=
  String.ofList (List.replicate (2 * depth) ' ')

/-- Lines between two brackets, which stand alone only where there is none. -/
def block (opening closing : String) (depth : Nat) (lines : List String) : String :=
  if lines.isEmpty then opening ++ closing
  else opening ++ "\n" ++ Text.joinWith ",\n" lines ++ "\n" ++ indent depth ++ closing

mutual

def pretty (depth : Nat) : JsonValue → String
  | .null => "null"
  | .bool value => if value then "true" else "false"
  | .number literal => literal
  | .string text => stringText (text.getD "")
  | .array items => block "[" "]" depth (itemLines (depth + 1) items)
  | .object members => block "\x7b" "\x7d" depth (memberLines (depth + 1) members)

def itemLines (depth : Nat) : List JsonValue → List String
  | [] => []
  | item :: rest => (indent depth ++ pretty depth item) :: itemLines depth rest

def memberLines (depth : Nat) : List (Option String × JsonValue) → List String
  | [] => []
  | (key, value) :: rest =>
      (indent depth ++ stringText (key.getD "") ++ ": " ++ pretty depth value) ::
        memberLines depth rest

end

end JsonValue

end SchemaBinding
