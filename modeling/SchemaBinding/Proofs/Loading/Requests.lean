import SchemaBinding.Proofs.Discovery
import SchemaBinding.Proofs.Loading.Contents
import Mathlib.Data.List.Lemmas

namespace SchemaBinding

namespace SchemaDocument

def linked (document : SchemaDocument) : LinkKind → List DocumentId
  | .inclusion => document.includes
  | .importing => document.imports

theorem linked_addLink (document : SchemaDocument) (kind other : LinkKind) (id : DocumentId) :
    (document.addLink kind id).linked other =
      if other = kind then addOnce (document.linked kind) id else document.linked other := by
  cases kind <;> cases other <;> rfl

theorem path_addLink (document : SchemaDocument) (kind : LinkKind) (id : DocumentId) :
    (document.addLink kind id).path = document.path := by
  cases kind <;> rfl

theorem schema_addLink (document : SchemaDocument) (kind : LinkKind) (id : DocumentId) :
    (document.addLink kind id).schema = document.schema := by
  cases kind <;> rfl

theorem document_addLink (document : SchemaDocument) (kind : LinkKind) (id : DocumentId) :
    (document.addLink kind id).document = document.document := by
  cases kind <;> rfl

end SchemaDocument

theorem map_modify_eq {α β : Type} {items : List α} {change : α → α} {f : α → β}
    (h : ∀ item, f (change item) = f item) (index : Nat) :
    (items.modify index change).map f = items.map f := by
  apply List.ext_getElem?
  intro other
  rw [List.getElem?_map, List.getElem?_map, List.getElem?_modify]
  split
  · cases items[other]? with
    | none => rfl
    | some item => exact congrArg some (h item)
  · cases items[other]? <;> rfl

namespace SchemaSet

variable (set : SchemaSet)

def locations : List Location :=
  set.documents.toList.map fun document => .file document.path

def requestsFrom (entry : List (LinkKind × Location) × Nat) : List Request :=
  entry.1.map fun target => ⟨target.2, some (⟨entry.2⟩, target.1)⟩

/-- The requests of all documents, in order. -/
def requests : List Request :=
  (set.documents.toList.map fun document =>
    document.schema.targets document.path).zipIdx.flatMap requestsFrom

def children : Option (DocumentId × LinkKind) → List DocumentId
  | none => set.roots
  | some (id, kind) => ((set.document? id).map fun document => document.linked kind).getD []

variable {set}

theorem length_locations (set : SchemaSet) : set.locations.length = set.size := by
  simp [locations, size]

theorem locations_link (parent : Option (DocumentId × LinkKind)) (id : DocumentId) :
    (set.link parent id).locations = set.locations := by
  cases parent with
  | none => rfl
  | some parent =>
      simp only [link, locations, Array.toList_modify]
      apply map_modify_eq
      intro document
      rw [SchemaDocument.path_addLink]

theorem requests_link (parent : Option (DocumentId × LinkKind)) (id : DocumentId) :
    (set.link parent id).requests = set.requests := by
  cases parent with
  | none => rfl
  | some parent =>
      simp only [link, requests, Array.toList_modify]
      rw [map_modify_eq]
      intro document
      rw [SchemaDocument.path_addLink, SchemaDocument.schema_addLink]

theorem exists_of_mem_link {parent : Option (DocumentId × LinkKind)} {id : DocumentId}
    {document : SchemaDocument} (h : document ∈ (set.link parent id).documents) :
    ∃ old ∈ set.documents, document.path = old.path ∧ document.schema = old.schema ∧
      document.document = old.document := by
  cases parent with
  | none => exact ⟨document, h, rfl, rfl, rfl⟩
  | some parent =>
      obtain ⟨index, hindex⟩ := Array.mem_iff_getElem?.mp h
      simp only [link, Array.getElem?_modify] at hindex
      split at hindex
      case isTrue =>
          obtain ⟨old, hold, rfl⟩ := Option.map_eq_some_iff.mp hindex
          exact ⟨old, Array.mem_of_getElem? hold, SchemaDocument.path_addLink old _ _,
            SchemaDocument.schema_addLink old _ _, SchemaDocument.document_addLink old _ _⟩
      case isFalse => exact ⟨document, Array.mem_of_getElem? hindex, rfl, rfl, rfl⟩

theorem children_link {parent : Option (DocumentId × LinkKind)}
    (hparent : ∀ number kind, parent = some (number, kind) → number.index < set.size)
    (id : DocumentId) (other : Option (DocumentId × LinkKind)) :
    (set.link parent id).children other =
      if other = parent then SchemaDocument.addOnce (set.children parent) id
      else set.children other := by
  cases parent with
  | none =>
      cases other with
      | none => rfl
      | some other => rfl
  | some parent =>
      obtain ⟨number, kind⟩ := parent
      have hlt := hparent number kind rfl
      cases other with
      | none => rfl
      | some other =>
          obtain ⟨number', kind'⟩ := other
          simp only [link, children, document?, Array.getElem?_modify, Option.some.injEq,
            Prod.mk.injEq]
          by_cases hsame : number' = number
          · subst hsame
            rw [Array.getElem?_eq_getElem hlt]
            simp only [if_true, Option.map_some, Option.getD_some, true_and,
              SchemaDocument.linked_addLink]
          · have hindex : number.index ≠ number'.index := by
              intro heq
              obtain ⟨index⟩ := number
              obtain ⟨index'⟩ := number'
              cases heq
              exact hsame rfl
            simp only [if_neg hindex, hsame, false_and, if_false]

theorem flatMap_zipIdx {α β : Type} (items : List α) (f : α → List β) :
    (items.zipIdx.flatMap fun entry => f entry.1) = items.flatMap f := by
  rw [← List.flatMap_map Prod.fst f, List.zipIdx_map_fst]

theorem map_location_requests (set : SchemaSet) :
    set.requests.map Request.location =
      set.documents.toList.flatMap fun document =>
        (document.schema.targets document.path).map Prod.snd := by
  have hentry : ∀ entry, (requestsFrom entry).map Request.location = entry.1.map Prod.snd := by
    intro entry
    rw [requestsFrom, List.map_map]
    rfl
  simp only [requests, List.map_flatMap, hentry]
  rw [flatMap_zipIdx _ (List.map Prod.snd), List.flatMap_map]

theorem le_of_mem_requestsFrom {targets : List (List (LinkKind × Location))} {start : Nat}
    {request : Request} (h : request ∈ (targets.zipIdx start).flatMap requestsFrom) :
    ∃ index kind, start ≤ index ∧ request.parent = some (⟨index⟩, kind) := by
  obtain ⟨⟨found, index⟩, hentry, hmem⟩ := List.mem_flatMap.mp h
  obtain ⟨target, _, rfl⟩ := List.mem_map.mp hmem
  exact ⟨index, target.1, (List.mem_zipIdx hentry).1, rfl⟩

theorem filter_requestsFrom (targets : List (List (LinkKind × Location))) (start index : Nat)
    (kind : LinkKind) :
    ((targets.zipIdx start).flatMap requestsFrom).filter
        (fun request => request.parent = some (⟨start + index⟩, kind)) =
      ((targets[index]?.getD []).filter fun target => target.1 = kind).map
        fun target => ⟨target.2, some (⟨start + index⟩, target.1)⟩ := by
  induction targets generalizing start index with
  | nil => simp
  | cons first rest ih =>
      rw [List.zipIdx_cons, List.flatMap_cons, List.filter_append]
      cases index with
      | zero =>
          have hrest : ((rest.zipIdx (start + 1)).flatMap requestsFrom).filter
              (fun request => request.parent = some (⟨start + 0⟩, kind)) = [] := by
            rw [List.filter_eq_nil_iff]
            intro request hrequest
            obtain ⟨index, _, hle, hparent⟩ := le_of_mem_requestsFrom hrequest
            rw [hparent]
            simp
            omega
          rw [hrest, List.append_nil]
          simp [requestsFrom, List.filter_map, Function.comp_def]
      | succ index =>
          have hfirst : (requestsFrom (first, start)).filter
              (fun request => request.parent = some (⟨start + (index + 1)⟩, kind)) = [] := by
            simp [requestsFrom, List.filter_map, Function.comp_def]
          have hnext : start + (index + 1) = start + 1 + index := by omega
          rw [hfirst, List.nil_append, hnext, ih (start + 1) index]
          rfl

/-! Adding a document. -/

theorem size_added (document : SchemaDocument) (model : Model) :
    (set.added document model).size = set.size + 1 :=
  Array.size_push _

theorem locations_added (document : SchemaDocument) (model : Model) :
    (set.added document model).locations = set.locations ++ [.file document.path] := by
  simp [added, locations]

theorem requests_added (document : SchemaDocument) (model : Model) :
    (set.added document model).requests = set.requests ++ document.requests ⟨set.size⟩ := by
  simp [added, requests, List.zipIdx_append, requestsFrom, SchemaDocument.requests, size]

theorem children_added {document : SchemaDocument} (hincludes : document.includes = [])
    (himports : document.imports = []) (model : Model)
    (parent : Option (DocumentId × LinkKind)) :
    (set.added document model).children parent = set.children parent := by
  cases parent with
  | none => rfl
  | some parent =>
      obtain ⟨number, kind⟩ := parent
      have hnone : document.linked kind = [] := by
        cases kind
        · exact hincludes
        · exact himports
      simp only [added, children, document?, Array.getElem?_push]
      split
      case isTrue heq =>
          rw [heq, Array.getElem?_eq_none (Nat.le_refl _)]
          exact hnone
      case isFalse => rfl

end SchemaSet

namespace Loading

variable {set other : SchemaSet}

theorem known?_eq (set : SchemaSet) (location : Location) :
    known? set location =
      (set.locations.findIdx? fun found => found == location).map DocumentId.mk := by
  cases location with
  | file path =>
      have hsame : (fun found => found == Location.file path) ∘
          (fun document : SchemaDocument => Location.file document.path) =
            fun document => document.path == path := by
        funext document
        rw [Bool.eq_iff_iff]
        simp
      obtain ⟨⟨documents⟩, model, roots⟩ := set
      simp only [known?, SchemaSet.withPath?, SchemaSet.locations, List.findIdx?_map, hsame,
        List.findIdx?_toArray]
  | remote url =>
      have hnone : set.locations.findIdx? (fun found => found == .remote url) = none := by
        rw [List.findIdx?_eq_none_iff]
        intro found hfound
        obtain ⟨document, _, rfl⟩ := List.mem_map.mp hfound
        rfl
      rw [hnone]
      rfl

theorem known?_eq_none_iff {location : Location} :
    known? set location = none ↔ location ∉ set.locations := by
  rw [known?_eq, Option.map_eq_none_iff, List.findIdx?_eq_none_iff]
  constructor
  · intro h hmem
    have heq := h location hmem
    rw [beq_self_eq_true] at heq
    cases heq
  · intro h found hfound
    rw [beq_eq_false_iff_ne]
    rintro rfl
    exact h hfound

theorem known?_of_append {location last : Location} (hmem : location ∈ set.locations)
    (h : other.locations = set.locations ++ [last]) :
    known? other location = known? set location := by
  cases hfound : set.locations.findIdx? fun found => found == location with
  | none =>
      have hunknown : known? set location = none := by rw [known?_eq, hfound, Option.map_none]
      exact absurd hmem (known?_eq_none_iff.mp hunknown)
  | some index =>
      rw [known?_eq, known?_eq, h, List.findIdx?_append, hfound, Option.some_or]

theorem known?_last {location : Location} (hnew : location ∉ set.locations)
    (h : other.locations = set.locations ++ [location]) :
    known? other location = some ⟨set.size⟩ := by
  have hnone : set.locations.findIdx? (fun found => found == location) = none := by
    have hunknown := known?_eq_none_iff.mpr hnew
    rw [known?_eq, Option.map_eq_none_iff] at hunknown
    exact hunknown
  rw [known?_eq, h, List.findIdx?_append, hnone, set.length_locations]
  simp

theorem known?_congr (h : other.locations = set.locations) (location : Location) :
    known? other location = known? set location := by
  rw [known?_eq, known?_eq, h]

theorem run_eq (limits : Limits) (permissive : Bool) (read : Location → Except FileFault String)
    (state : Loading) :
    run limits permissive read state =
      match settle state.set state.pending with
      | ⟨set, []⟩ => .ok set
      | ⟨set, request :: rest⟩ =>
          supply ⟨set, rest⟩ limits permissive request (read request.location) >>=
            run limits permissive read := by
  rw [run]
  split
  case h_1 set hsettled => rw [hsettled]
  case h_2 set request rest hsettled =>
      simp only [hsettled]
      split
      case h_1 error hnext => simp only [hnext, bind, Except.bind]
      case h_2 next hnext => simp only [hnext, bind, Except.bind]

theorem run_of_supply {limits : Limits} {permissive : Bool}
    {read : Location → Except FileFault String} {state next : Loading} {set : SchemaSet}
    {request : Request} {rest : List Request} {text : String}
    (hsettled : settle state.set state.pending = ⟨set, request :: rest⟩)
    (hread : read request.location = .ok text)
    (hnext : supply ⟨set, rest⟩ limits permissive request (.ok text) = .ok next) :
    run limits permissive read state = run limits permissive read next := by
  rw [run_eq, hsettled]
  simp only [hread, hnext, bind, Except.bind]

theorem run_of_settled {limits : Limits} {permissive : Bool}
    {read : Location → Except FileFault String} {state : Loading} (h : state.pending = []) :
    run limits permissive read state = .ok state.set := by
  rw [run_eq, h, settle]

end Loading

end SchemaBinding
