import SchemaBinding.Text.Hidden

namespace SchemaBinding.Text

def hexDigits (number : Nat) : List Char :=
  Nat.toDigits 16 number

def escapeChar (c : Char) : List Char :=
  match c with
  | '\x00' => ['\\', '0']
  | '\t' => ['\\', 't']
  | '\r' => ['\\', 'r']
  | '\n' => ['\\', 'n']
  | '\\' => ['\\', '\\']
  | '"' => ['\\', '"']
  | _ => if isHidden c then '\\' :: 'u' :: '\x7b' :: hexDigits c.toNat ++ ['\x7d'] else [c]

def quoted (text : String) : String :=
  String.ofList ('"' :: (text.toList.flatMap escapeChar ++ ['"']))

end SchemaBinding.Text
