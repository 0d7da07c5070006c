import SchemaBinding.Proofs.Loading.Requests
import SchemaBinding.Proofs.SchemaSet.Beside

namespace SchemaBinding

theorem SchemaSet.Beside.locations_eq {terms : Terms} {set other : SchemaSet}
    (h : set.Beside terms other) : other.locations = set.locations := by
  have hpaths := h.documents
  rw [locations, locations]
  generalize set.documents.toList = documents at hpaths ⊢
  generalize other.documents.toList = documents' at hpaths ⊢
  induction hpaths with
  | nil => rfl
  | cons hdocument _ ih => rw [List.map_cons, List.map_cons, hdocument.here.path, ih]

namespace Setting

def fetch (setting : Setting) (location : Location) : Except Error Xml.Document := do
  let text ← location.load setting.tree setting.limits
  Xml.Document.parse text setting.limits

theorem fetch_eq_ok_iff {setting : Setting} {location : Location} {document : Xml.Document} :
    setting.fetch location = .ok document ↔ location = .file ⟨location.text⟩ ∧
      ∃ text, setting.tree.readText ⟨location.text⟩ = .ok text ∧
        text.utf8ByteSize ≤ setting.limits.size ∧
          Xml.Document.parse text setting.limits = .ok document := by
  simp only [fetch, bind_eq_ok_iff, load_eq_ok_iff]
  constructor
  · rintro ⟨text, ⟨hfile, hread, hsize⟩, hparse⟩
    exact ⟨hfile, text, hread, hsize, hparse⟩
  · rintro ⟨hfile, text, hread, hsize, hparse⟩
    exact ⟨text, ⟨hfile, hread, hsize⟩, hparse⟩

/-- Settings in which every location holds documents that are akin. -/
structure Beside (terms : Terms) (setting other : Setting) : Prop where
  fetch (location : Location) :
    Ends terms (fun document document' => document.root.Akin terms document'.root)
      (setting.fetch location) (other.fetch location)
  permissive : terms.Permits setting.permissive other.permissive
  documents : setting.limits.documents = other.limits.documents ∨
    terms.eased ∧ setting.limits.documents ≤ other.limits.documents

theorem Beside.checkDocuments {terms : Terms} {setting other : Setting}
    (h : setting.Beside terms other) (count : Nat) :
    Ends terms Eq (setting.limits.checkDocuments count) (other.limits.checkDocuments count) := by
  rw [Limits.checkDocuments, Limits.checkDocuments]
  rcases h.documents with heq | ⟨heased, hle⟩
  · rw [heq]
    split
    case isTrue => exact .ok rfl
    case isFalse => exact .fail terms Eq _
  · split
    case isTrue hroom =>
        rw [if_pos (Nat.le_trans hroom hle)]
        exact .ok rfl
    case isFalse => exact .eased heased

end Setting

namespace Loading

/-- States of loading with the same requests, over sets that match. -/
structure Beside (terms : Terms) (state other : Loading) : Prop where
  set : state.set.Beside terms other.set
  pending : state.pending = other.pending

variable {terms : Terms}

theorem settle_beside {set other : SchemaSet} (h : set.Beside terms other)
    (pending : List Request) : (settle set pending).Beside terms (settle other pending) := by
  induction pending generalizing set other with
  | nil => exact ⟨h, rfl⟩
  | cons request rest ih =>
      rw [settle, settle, known?_congr h.locations_eq]
      cases known? set request.location with
      | none => exact ⟨h, rfl⟩
      | some id => exact ih (h.link request.parent id)

theorem Beside.exists_settled {state other : Loading} (h : state.Beside terms other)
    {set : SchemaSet} {pending : List Request}
    (hsettled : settle state.set state.pending = ⟨set, pending⟩) :
    ∃ set', settle other.set other.pending = ⟨set', pending⟩ ∧ set.Beside terms set' := by
  have hbeside := settle_beside h.set state.pending
  rw [hsettled, h.pending] at hbeside
  generalize settle other.set other.pending = settled at hbeside ⊢
  obtain ⟨set', _⟩ := settled
  obtain ⟨hset, rfl⟩ := hbeside
  exact ⟨set', rfl, hset⟩

theorem supply_eq (setting : Setting) (state : Loading) (request : Request) :
    supply state setting.limits setting.permissive request
      (request.location.readFrom setting.tree) = (do
        setting.limits.checkDocuments (state.set.size + 1)
        let document ← setting.fetch request.location
        let (schema, model) ← Schema.read document ⟨state.set.size⟩ request.location.text
          setting.permissive state.set.model
        let added := state.set.added ⟨⟨request.location.text⟩, document, schema, [], []⟩ model
        return ⟨added.link request.parent ⟨state.set.size⟩,
          state.pending ++ schema.directives.filterMap
            (request? (Path.directory ⟨request.location.text⟩) ⟨state.set.size⟩)⟩) := by
  simp only [supply, load, Setting.fetch, Location.load, bind_assoc, pure_bind]
  rfl

theorem ends_supply {setting setting' : Setting} (hsetting : setting.Beside terms setting')
    {state other : Loading} (h : state.Beside terms other) (request : Request) :
    Ends terms (Beside terms)
      (supply state setting.limits setting.permissive request
        (request.location.readFrom setting.tree))
      (supply other setting'.limits setting'.permissive request
        (request.location.readFrom setting'.tree)) := by
  rw [supply_eq, supply_eq, ← h.set.size_eq, ← h.pending]
  apply (hsetting.checkDocuments (state.set.size + 1)).bind
  rintro _ _ -
  apply (hsetting.fetch request.location).bind
  intro document document' hroot
  apply (Schema.ends_read (Base.fresh terms) hroot rfl request.location.text hsetting.permissive
    h.set.model).bind
  rintro ⟨schema, model⟩ ⟨schema', model'⟩ ⟨habreast, hgrows, _, hschema⟩
  have hadded : (state.set.added ⟨⟨request.location.text⟩, document, schema, [], []⟩ model).Beside
      terms (other.set.added ⟨⟨request.location.text⟩, document', schema', [], []⟩ model') := by
    refine ⟨habreast, ?_, h.set.roots⟩
    simp only [SchemaSet.added, Array.toList_push]
    apply List.rel_append
    · exact h.set.documents.imp fun _ _ hdocument => hdocument.mono hgrows.size_le
    · exact .cons (hschema.imp fun _ hmatches => ⟨rfl, hmatches, rfl, rfl⟩) .nil
  refine .ok ⟨hadded.link request.parent ⟨state.set.size⟩, ?_⟩
  rw [hschema.here.directives]

theorem ends_run {setting setting' : Setting} (hsetting : setting.Beside terms setting')
    {state other : Loading} (h : state.Beside terms other) :
    Ends terms (SchemaSet.Beside terms)
      (run setting.limits setting.permissive (Location.readFrom setting.tree) state)
      (run setting'.limits setting'.permissive (Location.readFrom setting'.tree) other) := by
  fun_induction run setting.limits setting.permissive (Location.readFrom setting.tree) state
    generalizing other with
  | case1 state set hsettled =>
      obtain ⟨set', hsettled', hset⟩ := h.exists_settled hsettled
      rw [run_eq, hsettled']
      exact .ok hset
  | case2 state set request rest hsettled error hnext =>
      obtain ⟨set', hsettled', hset⟩ := h.exists_settled hsettled
      have hbeside : Beside terms ⟨set, rest⟩ ⟨set', rest⟩ := ⟨hset, rfl⟩
      have hsupply := ends_supply hsetting hbeside request
      rw [hnext] at hsupply
      rw [run_eq, hsettled']
      exact hsupply.failed _
  | case3 state set request rest hsettled next hnext _ ih =>
      obtain ⟨set', hsettled', hset⟩ := h.exists_settled hsettled
      have hbeside : Beside terms ⟨set, rest⟩ ⟨set', rest⟩ := ⟨hset, rfl⟩
      have hsupply := ends_supply hsetting hbeside request
      rw [hnext] at hsupply
      obtain ⟨next', hnext', hgoes⟩ := hsupply.exists_ok
      rw [run_eq setting'.limits, hsettled']
      simp only [hnext', bind, Except.bind]
      exact ih hgoes

end Loading

theorem SchemaSet.ends_load {terms : Terms} {setting setting' : Setting}
    (hsetting : setting.Beside terms setting') (roots : List Path) :
    Ends terms (Beside terms) (load setting.tree roots setting.limits setting.permissive)
      (load setting'.tree roots setting'.limits setting'.permissive) :=
  Loading.ends_run hsetting ⟨.empty terms, rfl⟩

end SchemaBinding
