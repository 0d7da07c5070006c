import SchemaBinding.Proofs.Component.Extent
import SchemaBinding.Proofs.Loading.Loaded

namespace SchemaBinding

open Reading

/-- The models between the documents of a set, and the parts of each document. -/
structure Layout where
  stage : Nat → Model
  parts : Nat → List Part

namespace Layout

def extend (layout : Layout) (size : Nat) (parts : List Part) (after : Model) : Layout where
  stage index := if index ≤ size then layout.stage index else after
  parts index := if index < size then layout.parts index else parts

variable (layout : Layout) {size index : Nat} (parts : List Part) (after : Model)

theorem stage_extend_of_le (h : index ≤ size) :
    (layout.extend size parts after).stage index = layout.stage index :=
  if_pos h

theorem stage_extend_succ : (layout.extend size parts after).stage (size + 1) = after :=
  if_neg (Nat.not_succ_le_self size)

theorem parts_extend_of_lt (h : index < size) :
    (layout.extend size parts after).parts index = layout.parts index :=
  if_pos h

theorem parts_extend_self : (layout.extend size parts after).parts size = parts :=
  if_neg (Nat.lt_irrefl size)

end Layout

def SchemaDocument.origin (document : SchemaDocument) (permissive : Bool) (id : DocumentId) :
    Origin :=
  ⟨id, document.document, Schema.targetSpaceOf document.document.root, permissive⟩

/-- The parts of a document were read one after another. -/
structure SchemaDocument.LaidOut (permissive : Bool) (document : SchemaDocument) (id : DocumentId)
    (before : Model) (parts : List Part) (after : Model) : Prop where
  chain : Part.Chain (document.origin permissive id) 0 before parts after
  children : parts.map Part.child = schemaParts document.document.root.children
  entered : (Schema.blank document.document.root document.path.text permissive).enterAll parts =
    .ok document.schema

/-- The documents of a set were read one after another. -/
structure SchemaSet.LaidOut (permissive : Bool) (set : SchemaSet) (layout : Layout) : Prop where
  start : layout.stage 0 = {}
  final : layout.stage set.size = set.model
  document : ∀ id document, set.document? id = some document →
    document.LaidOut permissive id (layout.stage id.index) (layout.parts id.index)
      (layout.stage (id.index + 1))

namespace SchemaSet

theorem exists_of_document?_link {set : SchemaSet} {parent : Option (DocumentId × LinkKind)}
    {linked id : DocumentId} {document : SchemaDocument}
    (h : (set.link parent linked).document? id = some document) :
    ∃ old, set.document? id = some old ∧ document.path = old.path ∧
      document.schema = old.schema ∧ document.document = old.document := by
  cases parent with
  | none => exact ⟨document, h, rfl, rfl, rfl⟩
  | some parent =>
      simp only [link, document?, Array.getElem?_modify] at h
      split at h
      case isTrue =>
          obtain ⟨old, hold, rfl⟩ := Option.map_eq_some_iff.mp h
          exact ⟨old, hold, SchemaDocument.path_addLink old _ _,
            SchemaDocument.schema_addLink old _ _, SchemaDocument.document_addLink old _ _⟩
      case isFalse => exact ⟨document, h, rfl, rfl, rfl⟩

theorem document?_added {set : SchemaSet} {document found : SchemaDocument} {model : Model}
    {id : DocumentId} (h : (set.added document model).document? id = some found) :
    id.index < set.size ∧ set.document? id = some found ∨ id = ⟨set.size⟩ ∧ found = document := by
  obtain ⟨index⟩ := id
  have hget : (set.documents.push document)[index]? = some found := h
  rw [Array.getElem?_push] at hget
  split at hget
  case isTrue heq =>
      cases hget
      exact .inr ⟨congrArg DocumentId.mk heq, rfl⟩
  case isFalse => exact .inl ⟨(Array.getElem?_eq_some_iff.mp hget).choose, hget⟩

theorem model_link (set : SchemaSet) (parent : Option (DocumentId × LinkKind)) (id : DocumentId) :
    (set.link parent id).model = set.model := by
  cases parent <;> rfl

namespace LaidOut

variable {permissive : Bool} {set : SchemaSet} {layout : Layout}

theorem empty (permissive : Bool) : LaidOut permissive {} ⟨fun _ => {}, fun _ => []⟩ where
  start := rfl
  final := rfl
  document id document h := by
    simp [document?] at h

theorem link (h : set.LaidOut permissive layout) (parent : Option (DocumentId × LinkKind))
    (id : DocumentId) : (set.link parent id).LaidOut permissive layout where
  start := h.start
  final := by rw [size_link, model_link, h.final]
  document id document hdocument := by
    obtain ⟨old, hold, hpath, hschema, hsource⟩ := exists_of_document?_link hdocument
    obtain ⟨hchain, hchildren, hentered⟩ := h.document id old hold
    constructor
    · rw [SchemaDocument.origin, hsource]
      exact hchain
    · rw [hsource]
      exact hchildren
    · rw [hsource, hpath, hschema]
      exact hentered

theorem added (h : set.LaidOut permissive layout) {document : SchemaDocument} {model : Model}
    (hread : Schema.read document.document ⟨set.size⟩ document.path.text permissive set.model =
      .ok (document.schema, model)) :
    ∃ next, (set.added document model).LaidOut permissive next := by
  obtain ⟨_, parts, hchain, hchildren, hentered⟩ := Schema.read_eq_ok_iff.mp hread
  refine ⟨layout.extend set.size parts model, ?_, ?_, ?_⟩
  · rw [Layout.stage_extend_of_le _ _ _ (Nat.zero_le _), h.start]
  · rw [size_added, Layout.stage_extend_succ]
    rfl
  · intro id found hfound
    rcases document?_added hfound with ⟨hlt, hold⟩ | ⟨rfl, rfl⟩
    · rw [Layout.stage_extend_of_le _ _ _ (Nat.le_of_lt hlt), Layout.stage_extend_of_le _ _ _ hlt,
        Layout.parts_extend_of_lt _ _ _ hlt]
      exact h.document id found hold
    · rw [Layout.stage_extend_of_le _ _ _ (Nat.le_refl _), Layout.stage_extend_succ,
        Layout.parts_extend_self, h.final]
      exact ⟨hchain, hchildren, hentered⟩

theorem keeps : Loading.Keeps permissive fun set => ∃ layout, set.LaidOut permissive layout where
  link := by
    rintro set ⟨layout, h⟩ parent id
    exact ⟨layout, h.link parent id⟩
  added := by
    rintro set document model ⟨layout, h⟩ hread
    exact h.added hread

end LaidOut

theorem exists_layout_of_load {tree : FileTree} {roots : List Path} {limits : Limits}
    {permissive : Bool} {set : SchemaSet} (h : load tree roots limits permissive = .ok set) :
    ∃ layout, set.LaidOut permissive layout :=
  LaidOut.keeps.run ⟨_, .empty permissive⟩ h

end SchemaSet

end SchemaBinding
