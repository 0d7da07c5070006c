import SchemaBinding.Component.Schema
import SchemaBinding.Location

namespace SchemaBinding

/-- How one document asks for another. -/
inductive LinkKind
  | inclusion
  | importing
  deriving DecidableEq, Repr

structure SchemaDocument where
  /-- The normalised path it was read from. -/
  path : Path
  document : Xml.Document
  schema : Schema
  /-- The documents it includes and imports, each once, in order of request. -/
  includes : List DocumentId := []
  imports : List DocumentId := []

namespace SchemaDocument

def targetSpace (document : SchemaDocument) : Option String :=
  document.schema.targetSpace

def symbols (document : SchemaDocument) : SymbolTable :=
  document.schema.symbols

def links (document : SchemaDocument) : List DocumentId :=
  document.includes ++ document.imports

def addOnce (ids : List DocumentId) (id : DocumentId) : List DocumentId :=
  if id ∈ ids then ids else ids ++ [id]

def addLink (document : SchemaDocument) (kind : LinkKind) (id : DocumentId) :
    SchemaDocument :=
  match kind with
  | .inclusion => { document with includes := addOnce document.includes id }
  | .importing => { document with imports := addOnce document.imports id }

end SchemaDocument

structure SchemaSet where
  documents : Array SchemaDocument := #[]
  model : Model := {}
  /-- The documents that were named to begin with, each once. -/
  roots : List DocumentId := []

namespace SchemaSet

def size (set : SchemaSet) : Nat :=
  set.documents.size

def document? (set : SchemaSet) (id : DocumentId) : Option SchemaDocument :=
  set.documents[id.index]?

def documentIds (set : SchemaSet) : List DocumentId :=
  (List.range set.size).map DocumentId.mk

def withPath? (set : SchemaSet) (path : Path) : Option DocumentId :=
  (set.documents.findIdx? fun document => document.path == path).map DocumentId.mk

def documentByPath? (set : SchemaSet) (path : Path) : Option DocumentId :=
  set.withPath? path.normalize

def fragment (set : SchemaSet) (span : Span) : String :=
  ((set.document? span.document).map fun document =>
    document.document.fragment span.start span.stop).getD ""

def link (set : SchemaSet) (parent : Option (DocumentId × LinkKind)) (id : DocumentId) :
    SchemaSet :=
  match parent with
  | none => { set with roots := SchemaDocument.addOnce set.roots id }
  | some (parent, kind) =>
      { set with
        documents := set.documents.modify parent.index fun document =>
          document.addLink kind id }

@[simp] theorem size_link (set : SchemaSet) (parent : Option (DocumentId × LinkKind))
    (id : DocumentId) : (set.link parent id).size = set.size := by
  cases parent <;> simp [link, size]

end SchemaSet

end SchemaBinding
