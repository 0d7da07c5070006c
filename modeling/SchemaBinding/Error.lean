import SchemaBinding.Text.Pieces

namespace SchemaBinding

/-- The symbol spaces of a schema. -/
inductive SymbolKind
  | element
  | attribute
  | type
  | attributeGroup
  | group
  deriving DecidableEq, Repr

def SymbolKind.label : SymbolKind → String
  | .element => "element"
  | .attribute => "attribute"
  | .type => "type"
  | .attributeGroup => "attributeGroup"
  | .group => "group"

/-- Why a file could not be read or written. -/
inductive FileFault
  | missing
  | isDirectory
  | notDirectory
  | alreadyThere
  | nameTooLong
  | nulInName
  | notText
  | noted (text : String)
  deriving DecidableEq, Repr

def FileFault.message : FileFault → String
  | .missing => "No such file or directory (os error 2)"
  | .isDirectory => "Is a directory (os error 21)"
  | .notDirectory => "Not a directory (os error 20)"
  | .alreadyThere => "File exists (os error 17)"
  | .nameTooLong => "File name too long (os error 36)"
  | .nulInName => "file name contained an unexpected NUL byte"
  | .notText => "stream did not contain valid UTF-8"
  | .noted text => text

/-- Which of the two occurrence bounds is no count, with its trimmed text. -/
inductive BoundFault
  | least (text : String)
  | greatest (text : String)
  deriving DecidableEq, Repr

def BoundFault.message : BoundFault → String
  | .least text => "invalid minOccurs '" ++ text ++ "'"
  | .greatest text => "invalid maxOccurs '" ++ text ++ "'"

/-- What is wrong with a construct of a schema. -/
inductive Flaw
  | notSchema (found : String)
  | lacksAttribute (tag key : String)
  | nameless (tag : String)
  | badBound (fault : BoundFault)
  | badUse (value : String)
  | underivedSimpleType
  | restrictionWithoutBase
  | listWithoutItem
  | emptyUnion
  | emptyComplexType
  | underivedContent (tag : String)
  | severalModelGroups
  | attributeGroupWithoutRef
  | groupWithoutRef
  | noSimpleContent (type : String)
  | notComplex (type : String)
  | extendsNonComplex (base : String)
  | complexAttribute (name : String)
  | noted (text : String)
  deriving DecidableEq, Repr

def Flaw.message : Flaw → String
  | .notSchema found => "expected xs:schema root element, got '" ++ found ++ "'"
  | .lacksAttribute tag key =>
      "xs:" ++ tag ++ " requires a '" ++ key ++ "' attribute"
  | .nameless tag => "xs:" ++ tag ++ " has neither 'name' nor 'ref'"
  | .badBound fault => fault.message
  | .badUse value => "invalid use '" ++ value ++ "'"
  | .underivedSimpleType => "simpleType lacks restriction, list or union"
  | .restrictionWithoutBase => "restriction has neither 'base' nor a nested simpleType"
  | .listWithoutItem => "list has neither 'itemType' nor a nested simpleType"
  | .emptyUnion => "union has no member types"
  | .emptyComplexType =>
      "complexType has no simple/complex content and no attributes or elements"
  | .underivedContent tag => "xs:" ++ tag ++ " lacks extension or restriction"
  | .severalModelGroups => "more than one model group"
  | .attributeGroupWithoutRef => "attributeGroup reference requires 'ref'"
  | .groupWithoutRef => "group reference requires 'ref'"
  | .noSimpleContent type => "type '" ++ type ++ "' has no simple content"
  | .notComplex type => "'" ++ type ++ "' is not a complex type"
  | .extendsNonComplex base => "complexContent extends non-complex type '" ++ base ++ "'"
  | .complexAttribute name => "attribute '" ++ name ++ "' has a complex type"
  | .noted text => text

/-- Why a schema location gave no document. -/
inductive MissingCause
  | unreadable (fault : FileFault)
  | remote
  | noted (text : String)
  deriving DecidableEq, Repr

def MissingCause.message : MissingCause → String
  | .unreadable fault => fault.message
  | .remote => "remote schema locations are not supported"
  | .noted text => text

/-- The limit that was passed, with what was found and what is allowed. -/
inductive Excess
  | depth (found allowed : Nat)
  | size (found allowed : Nat)
  | documents (found allowed : Nat)
  | noted (text : String)
  deriving DecidableEq, Repr

def Excess.message : Excess → String
  | .depth found allowed => s!"XML depth {found} exceeds maximum {allowed}"
  | .size found allowed => s!"XML size {found} bytes exceeds maximum {allowed} bytes"
  | .documents found allowed =>
      s!"schema graph holds {found} documents, maximum is {allowed}"
  | .noted text => text

/-- What makes a set of options unusable. -/
inductive OptionFault
  | badPackage (package : String)
  | badNamespacePackage (package namespaceUri : String)
  | noOutput
  | noSchemas (directory : String)
  | noted (text : String)
  deriving DecidableEq, Repr

def OptionFault.message : OptionFault → String
  | .badPackage package => "invalid package name '" ++ package ++ "'"
  | .badNamespacePackage package namespaceUri =>
      "invalid package name '" ++ package ++ "' for namespace '" ++ namespaceUri ++ "'"
  | .noOutput => "output directory is empty"
  | .noSchemas directory => "no *.xsd files found in '" ++ directory ++ "'"
  | .noted text => text

/-- Why a name could not be qualified. -/
inductive NameFault
  | unknownPrefix (short name : String)
  | noted (text : String)
  deriving DecidableEq, Repr

def NameFault.message : NameFault → String
  | .unknownPrefix short name => "Unknown prefix '" ++ short ++ "' in '" ++ name ++ "'"
  | .noted text => text

/-- The failures of a run. Fragments are source text of the offending construct. -/
inductive Error
  | unresolved (kind : SymbolKind) (name fragment : String)
  | duplicate (kind : SymbolKind) (name document : String)
  | malformed (flaw : Flaw) (fragment : String)
  | missing (location : String) (cause : MissingCause)
  | cyclic (kind : SymbolKind) (chain : List String)
  | markup (text : String)
  | naming (fault : NameFault)
  | limit (excess : Excess)
  | options (fault : OptionFault)
  | file (fault : FileFault)
  | json (text : String)
  /-- A component is asked for by a number that none has; no loaded set leads to this. -/
  | absent (kind : SymbolKind) (index : Nat)
  deriving DecidableEq, Repr

namespace Error

def withSource (text fragment : String) : String :=
  text ++ "\n\nSource:\n" ++ fragment

def message : Error → String
  | unresolved kind name fragment =>
      withSource ("unresolved " ++ kind.label ++ " reference '" ++ name ++ "'") fragment
  | duplicate kind name document =>
      "duplicate " ++ kind.label ++ " definition '" ++ name ++ "' in " ++ document
  | malformed flaw fragment => withSource ("malformed construct: " ++ flaw.message) fragment
  | missing location cause => "cannot load schema '" ++ location ++ "': " ++ cause.message
  | cyclic kind chain =>
      "cyclic " ++ kind.label ++ " reference: " ++ Text.joinWith " -> " chain
  | markup text => "XML error: " ++ text
  | naming fault => "namespace error: " ++ fault.message
  | limit excess => "limit exceeded: " ++ excess.message
  | options fault => "configuration error: " ++ fault.message
  | file fault => "I/O error: " ++ fault.message
  | json text => "JSON error: " ++ text
  | absent kind index => s!"no {kind.label} has number {index}"

end Error

end SchemaBinding
