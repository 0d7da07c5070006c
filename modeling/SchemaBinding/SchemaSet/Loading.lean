import SchemaBinding.SchemaSet.Basic
import SchemaBinding.Source

namespace SchemaBinding

structure Request where
  location : Location
  parent : Option (DocumentId × LinkKind)
  deriving DecidableEq, Repr

structure Loading where
  set : SchemaSet
  pending : List Request

namespace Loading

def begin (roots : List Path) : Loading where
  set := {}
  pending := roots.map fun path => ⟨.file path.normalize, none⟩

def known? (set : SchemaSet) : Location → Option DocumentId
  | .file path => set.withPath? path
  | .remote _ => none

/-- Meets the leading requests for documents that are there. -/
def settle (set : SchemaSet) : List Request → Loading
  | [] => ⟨set, []⟩
  | request :: rest =>
      match known? set request.location with
      | some id => settle (set.link request.parent id) rest
      | none => ⟨set, request :: rest⟩

def request? (base : Path) (parent : DocumentId) : Directive → Option Request
  | .inclusion location => some ⟨.resolve location base, some (parent, .inclusion)⟩
  | .importing _ (some location) => some ⟨.resolve location base, some (parent, .importing)⟩
  | .importing _ none => none

def load (set : SchemaSet) (limits : Limits) (permissive : Bool) (request : Request)
    (text : String) : Except Error (SchemaSet × List Request) := do
  let path : Path := ⟨request.location.text⟩
  let id : DocumentId := ⟨set.size⟩
  let document ← Xml.Document.parse text limits
  let (schema, model) ← Schema.read document id path.text permissive set.model
  let added : SchemaSet :=
    { set with documents := set.documents.push ⟨path, document, schema, [], []⟩, model := model }
  return (added.link request.parent id,
    schema.directives.filterMap (request? path.directory id))

def supply (state : Loading) (limits : Limits) (permissive : Bool) (request : Request)
    (result : Except FileFault String) : Except Error Loading := do
  limits.checkDocuments (state.set.size + 1)
  let text ← request.location.accept limits result
  let (set, requests) ← load state.set limits permissive request text
  return ⟨set, state.pending ++ requests⟩

theorem size_settle (set : SchemaSet) (pending : List Request) :
    (settle set pending).set.size = set.size := by
  induction pending generalizing set with
  | nil => rfl
  | cons request rest ih =>
      rw [settle]
      split
      · rw [ih, SchemaSet.size_link]
      · rfl

theorem size_load {set next : SchemaSet} {limits : Limits} {permissive : Bool}
    {request : Request} {text : String} {requests : List Request}
    (h : load set limits permissive request text = .ok (next, requests)) :
    next.size = set.size + 1 := by
  simp only [load, bind, Except.bind, pure, Except.pure] at h
  split at h
  · cases h
  · split at h
    · cases h
    · cases h
      rw [SchemaSet.size_link]
      simp [SchemaSet.size]

theorem size_supply {state next : Loading} {limits : Limits} {permissive : Bool}
    {request : Request} {result : Except FileFault String}
    (h : state.supply limits permissive request result = .ok next) :
    next.set.size = state.set.size + 1 ∧ state.set.size < limits.documents := by
  simp only [supply, Limits.checkDocuments, bind, Except.bind, pure, Except.pure] at h
  split at h
  · cases h
  · rename_i hcheck
    split at h
    · cases h
    · split at h
      · cases h
      · rename_i loaded hload
        cases h
        refine ⟨size_load hload, ?_⟩
        split at hcheck
        · omega
        · cases hcheck

theorem room_lt {state next : Loading} {limits : Limits} {permissive : Bool}
    {set : SchemaSet} {rest : List Request} {request : Request}
    {result : Except FileFault String}
    (hsettled : settle state.set state.pending = ⟨set, request :: rest⟩)
    (hnext : supply ⟨set, rest⟩ limits permissive request result = .ok next) :
    limits.documents - next.set.size < limits.documents - state.set.size := by
  have hsize := size_settle state.set state.pending
  have hsupply := size_supply hnext
  rw [hsettled] at hsize
  simp only at hsize hsupply
  omega

def run (limits : Limits) (permissive : Bool) (read : Location → Except FileFault String)
    (state : Loading) : Except Error SchemaSet :=
  match hsettled : settle state.set state.pending with
  | ⟨set, []⟩ => .ok set
  | ⟨set, request :: rest⟩ =>
      match hnext : supply ⟨set, rest⟩ limits permissive request (read request.location) with
      | .error error => .error error
      | .ok next =>
          -- one document more, and those are limited
          have := room_lt hsettled hnext
          run limits permissive read next
termination_by limits.documents - state.set.size

end Loading

/-- Loads the root documents and all that they include or import. -/
def SchemaSet.load (tree : FileTree) (roots : List Path) (limits : Limits)
    (permissive : Bool) : Except Error SchemaSet :=
  Loading.run limits permissive (Location.readFrom tree) (.begin roots)

end SchemaBinding
