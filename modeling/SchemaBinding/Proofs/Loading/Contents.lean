import SchemaBinding.Proofs.Component.Reread
import SchemaBinding.SchemaSet.Loading

namespace SchemaBinding

/-- Where documents are read from, and how strictly. -/
structure Setting where
  tree : FileTree
  limits : Limits
  permissive : Bool

/-- The location that a directive asks for, next to a document in a directory. -/
def Directive.target? (base : Path) : Directive → Option (LinkKind × Location)
  | .inclusion location => some (.inclusion, .resolve location base)
  | .importing _ (some location) => some (.importing, .resolve location base)
  | .importing _ none => none

/-- The locations that a document with a path asks for, in order. -/
def Schema.targets (schema : Schema) (path : Path) : List (LinkKind × Location) :=
  schema.directives.filterMap (Directive.target? path.directory)

namespace Setting

variable (setting : Setting)

/-- A location holds a document: it is a file that can be read within the size limit, its text is
XML within the depth limit, and that is a schema. -/
structure Holds (location : Location) (document : Xml.Document) (schema : Schema) : Prop where
  file : location = .file ⟨location.text⟩
  text : ∃ text, setting.tree.readText ⟨location.text⟩ = .ok text ∧
    text.utf8ByteSize ≤ setting.limits.size ∧
      Xml.Document.parse text setting.limits = .ok document
  schema : ∃ model, Schema.read document ⟨0⟩ location.text setting.permissive {} =
    .ok (schema, model)

def Loadable (location : Location) : Prop :=
  ∃ document schema, setting.Holds location document schema

def contents (location : Location) : Except Error (Xml.Document × Schema) := do
  let text ← location.load setting.tree setting.limits
  let document ← Xml.Document.parse text setting.limits
  let (schema, _) ← Schema.read document ⟨0⟩ location.text setting.permissive {}
  return (document, schema)

def links (location : Location) : List (LinkKind × Location) :=
  match setting.contents location with
  | .ok (_, schema) => schema.targets ⟨location.text⟩
  | .error _ => []

def targets (location : Location) : List Location :=
  (setting.links location).map Prod.snd

variable {setting}

theorem load_eq_ok_iff {location : Location} {text : String} :
    location.load setting.tree setting.limits = .ok text ↔
      location = .file ⟨location.text⟩ ∧
        setting.tree.readText ⟨location.text⟩ = .ok text ∧
          text.utf8ByteSize ≤ setting.limits.size := by
  cases location with
  | remote url =>
      constructor
      · intro h
        cases h
      · rintro ⟨h, _⟩
        cases h
  | file path =>
      simp only [Location.load, Location.accept, Location.readFrom, Location.text, true_and]
      cases hread : setting.tree.readText path with
      | error fault =>
          constructor
          · intro h
            cases h
          · rintro ⟨h, _⟩
            cases h
      | ok found =>
          simp only [bind_eq_ok_iff, Limits.checkSize]
          constructor
          · rintro ⟨_, hsize, heq⟩
            cases heq
            split at hsize
            case isTrue hle => exact ⟨rfl, hle⟩
            case isFalse => cases hsize
          · rintro ⟨heq, hle⟩
            cases heq
            exact ⟨(), if_pos hle, rfl⟩

theorem contents_eq_ok_iff {location : Location} {document : Xml.Document} {schema : Schema} :
    setting.contents location = .ok (document, schema) ↔
      setting.Holds location document schema := by
  simp only [contents, bind_eq_ok_iff, load_eq_ok_iff]
  constructor
  · rintro ⟨text, ⟨hfile, hread, hsize⟩, found, hparse, ⟨read, model⟩, hschema, heq⟩
    cases heq
    exact ⟨hfile, ⟨text, hread, hsize, hparse⟩, model, hschema⟩
  · rintro ⟨hfile, ⟨text, hread, hsize, hparse⟩, model, hschema⟩
    exact ⟨text, ⟨hfile, hread, hsize⟩, document, hparse, (schema, model), hschema, rfl⟩

theorem links_of_holds {location : Location} {document : Xml.Document} {schema : Schema}
    (h : setting.Holds location document schema) :
    setting.links location = schema.targets ⟨location.text⟩ := by
  rw [links, contents_eq_ok_iff.mpr h]

end Setting

namespace Schema

theorem exists_read_alone {document : Xml.Document} {id : DocumentId} {label : String}
    {permissive : Bool} {model next : Model} {schema : Schema}
    (h : read document id label permissive model = .ok (schema, next)) (other : DocumentId)
    (rest : Model) :
    ∃ alone last, read document other label permissive rest = .ok (alone, last) ∧
      alone.directives = schema.directives := by
  have hends : Ends _ _ (read document id label permissive model)
      (read document other label permissive rest) :=
    ends_read { first := model, second := rest, documents := fun _ _ => True }
      (.refl _ document.root) trivial label (.inl rfl) .start
  rw [h] at hends
  obtain ⟨⟨alone, last⟩, hread, hsteps⟩ := hends.exists_ok
  exact ⟨alone, last, hread, hsteps.2.2.2.here.directives.symm⟩

end Schema

def SchemaDocument.requests (document : SchemaDocument) (id : DocumentId) : List Request :=
  (document.schema.targets document.path).map fun target => ⟨target.2, some (id, target.1)⟩

def SchemaSet.added (set : SchemaSet) (document : SchemaDocument) (model : Model) : SchemaSet :=
  { set with documents := set.documents.push document, model := model }

namespace Loading

variable {setting : Setting} {set : SchemaSet} {rest : List Request} {request : Request}

theorem filterMap_request? (directives : List Directive) (base : Path) (id : DocumentId) :
    directives.filterMap (request? base id) =
      (directives.filterMap (Directive.target? base)).map
        fun target => ⟨target.2, some (id, target.1)⟩ := by
  have hsame : request? base id = fun directive =>
      (Directive.target? base directive).map fun target => ⟨target.2, some (id, target.1)⟩ := by
    funext directive
    cases directive with
    | inclusion location => rfl
    | importing space location => cases location <;> rfl
  rw [List.map_filterMap, hsame]

theorem supply_eq_ok {next : Loading}
    (h : supply ⟨set, rest⟩ setting.limits setting.permissive request
      (request.location.readFrom setting.tree) = .ok next) :
    set.size + 1 ≤ setting.limits.documents ∧
      ∃ (document : SchemaDocument) (alone : Schema) (model : Model),
        document.path = ⟨request.location.text⟩ ∧
        document.includes = [] ∧ document.imports = [] ∧
        setting.Holds request.location document.document alone ∧
        document.schema.directives = alone.directives ∧
        next = ⟨(set.added document model).link request.parent ⟨set.size⟩,
          rest ++ document.requests ⟨set.size⟩⟩ := by
  simp only [supply, load, bind_eq_ok_iff, Limits.checkDocuments] at h
  obtain ⟨_, hroom, text, htext, ⟨loaded, requests⟩, hload, hnext⟩ := h
  obtain ⟨found, hparse, ⟨schema, model⟩, hschema, hloaded⟩ := hload
  obtain ⟨alone, last, halone, hdirectives⟩ := Schema.exists_read_alone hschema ⟨0⟩ {}
  obtain ⟨hfile, hread, hsize⟩ := Setting.load_eq_ok_iff.mp htext
  cases hloaded
  cases hnext
  constructor
  · split at hroom
    case isTrue hle => exact hle
    case isFalse => cases hroom
  · refine ⟨⟨⟨request.location.text⟩, found, schema, [], []⟩, alone, model, rfl, rfl, rfl,
      ⟨hfile, ⟨text, hread, hsize, hparse⟩, last, halone⟩, hdirectives.symm, ?_⟩
    rw [filterMap_request?]
    rfl

theorem exists_supply (hroom : set.size + 1 ≤ setting.limits.documents)
    (hload : setting.Loadable request.location) :
    ∃ next, supply ⟨set, rest⟩ setting.limits setting.permissive request
      (request.location.readFrom setting.tree) = .ok next := by
  obtain ⟨document, alone, hfile, ⟨text, hread, hsize, hparse⟩, last, halone⟩ := hload
  obtain ⟨schema, model, hschema, _⟩ := Schema.exists_read_alone halone ⟨set.size⟩ set.model
  have htext : request.location.accept setting.limits
      (request.location.readFrom setting.tree) = .ok text :=
    Setting.load_eq_ok_iff.mpr ⟨hfile, hread, hsize⟩
  simp only [supply, load, bind_eq_ok_iff, Limits.checkDocuments]
  exact ⟨_, (), if_pos hroom, text, htext, _, ⟨document, hparse, (schema, model), hschema, rfl⟩,
    rfl⟩

end Loading

end SchemaBinding
