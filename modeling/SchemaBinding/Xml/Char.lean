import SchemaBinding.Text.Blank

namespace SchemaBinding.Xml

inductive Fault
  | expected (what : String)
  | badName
  | badChar
  | badComment
  | sectionEndInText
  | badReference
  | unknownEntity (name : String)
  | misplacedDeclaration
  | documentType
  | mismatchedEnd (name : String)
  | outsideRoot
  | noRoot
  | unclosed
  | reservedNamespace
  | repeatedNamespace (short : String)
  | unknownNamespace (short : String)
  | repeatedAttribute (name : String)
  deriving DecidableEq, Repr

def Fault.message : Fault → String
  | .expected what => "expected " ++ what
  | .badName => "invalid name"
  | .badChar => "character not allowed"
  | .badComment => "comment has two hyphens"
  | .sectionEndInText => "text has the end of a CDATA section"
  | .badReference => "malformed reference"
  | .unknownEntity name => "unknown entity '" ++ name ++ "'"
  | .misplacedDeclaration => "XML declaration inside the document"
  | .documentType => "document type declaration"
  | .mismatchedEnd name => "unexpected end tag '" ++ name ++ "'"
  | .outsideRoot => "markup or text outside the root element"
  | .noRoot => "no root element"
  | .unclosed => "root element is not closed"
  | .reservedNamespace => "reserved namespace or prefix"
  | .repeatedNamespace short => "prefix '" ++ short ++ "' is bound twice"
  | .unknownNamespace short => "unknown prefix '" ++ short ++ "'"
  | .repeatedAttribute name => "attribute '" ++ name ++ "' is given twice"

def isSpace (c : Char) : Bool :=
  c == ' ' || c == '\t' || c == '\n' || c == '\r'

/-- The ranges outside ASCII with which a name can begin. -/
def nameStartRanges : List (Nat × Nat) :=
  [(0xC0, 0xD6), (0xD8, 0xF6), (0xF8, 0x2FF), (0x370, 0x37D), (0x37F, 0x1FFF),
    (0x200C, 0x200D), (0x2070, 0x218F), (0x2C00, 0x2FEF), (0x3001, 0xD7FF),
    (0xF900, 0xFDCF), (0xFDF0, 0xFFFD), (0x10000, 0xEFFFF)]

def namePartRanges : List (Nat × Nat) :=
  [(0xB7, 0xB7), (0x300, 0x36F), (0x203F, 0x2040)]

def isNameStart (c : Char) : Bool :=
  c.isAlpha || c == ':' || c == '_' || Text.inRanges nameStartRanges c

def isNamePart (c : Char) : Bool :=
  isNameStart c || c.isDigit || c == '-' || c == '.' || Text.inRanges namePartRanges c

def isChar (c : Char) : Bool :=
  if c.toNat < 0x20 then isSpace c else c.toNat != 0xFFFE && c.toNat != 0xFFFF

end SchemaBinding.Xml
