import SchemaBinding.Room
import SchemaBinding.SchemaSet.Basic

namespace SchemaBinding.SchemaSet

def unvisited (set : SchemaSet) (visited : List DocumentId) : Nat :=
  room set.size (visited.map DocumentId.index)

theorem unvisited_cons_lt {set : SchemaSet} {visited : List DocumentId} {id : DocumentId}
    {document : SchemaDocument} (hdocument : set.document? id = some document)
    (hnew : id ∉ visited) : set.unvisited (id :: visited) < set.unvisited visited := by
  apply room_cons_lt (Array.getElem?_eq_some_iff.mp hdocument).choose
  intro hmem
  obtain ⟨other, hother, heq⟩ := List.mem_map.mp hmem
  cases other
  cases id
  cases heq
  exact hnew hother

/-- The documents visited, newest first, when those on a stack are visited in turn and the links
of each before the rest of the stack. -/
def walk (set : SchemaSet) (links : SchemaDocument → List DocumentId)
    (visited : List DocumentId) : List DocumentId → List DocumentId
  | [] => visited
  | id :: rest =>
      if hseen : id ∈ visited then walk set links visited rest
      else
        match hdocument : set.document? id with
        | none => walk set links visited rest
        | some document =>
            have := unvisited_cons_lt hdocument hseen
            walk set links (id :: visited) (links document ++ rest)
termination_by stack => (set.unvisited visited, stack.length)

def visible (set : SchemaSet) (start : DocumentId) : List DocumentId :=
  (set.walk SchemaDocument.links [] [start]).reverse

def includeClosure (set : SchemaSet) (start : DocumentId) : List DocumentId :=
  (set.walk SchemaDocument.includes [] [start]).reverse

/-- The symbol that a document itself declares under a qualified name. -/
def declaredIn? (set : SchemaSet) (kind : SymbolKind) (name : QName) (id : DocumentId) :
    Option (Id kind) := do
  let document ← set.document? id
  if name.inNamespace document.targetSpace then document.symbols.get? kind name.localName
  else none

/-- The first symbol that a document sees under a qualified name. -/
def lookup? (set : SchemaSet) (kind : SymbolKind) (name : QName) (start : DocumentId) :
    Option (Id kind) :=
  (set.visible start).findSome? (set.declaredIn? kind name)

end SchemaBinding.SchemaSet
