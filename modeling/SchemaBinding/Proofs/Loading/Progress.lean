import SchemaBinding.Proofs.Loading.Requests

namespace SchemaBinding

def rootRequests (roots : List Path) : List Request :=
  (Loading.begin roots).pending

def rootLocations (roots : List Path) : List Location :=
  roots.map fun path => .file path.normalize

namespace Loading

def idsOf (set : SchemaSet) (requests : List Request) : List DocumentId :=
  (requests.filterMap fun request => known? set request.location).eraseDups

theorem idsOf_congr {set other : SchemaSet} {requests : List Request}
    (h : ∀ request ∈ requests, known? other request.location = known? set request.location) :
    idsOf other requests = idsOf set requests := by
  rw [idsOf, idsOf]
  congr 1
  exact List.filterMap_congr h

theorem idsOf_concat {set : SchemaSet} {request : Request} {id : DocumentId}
    (h : known? set request.location = some id) (requests : List Request) :
    idsOf set (requests ++ [request]) = SchemaDocument.addOnce (idsOf set requests) id := by
  have hlast : [request].filterMap (fun request => known? set request.location) = [id] := by
    simp [h]
  simp only [idsOf, List.filterMap_append, hlast, eraseDups_concat, SchemaDocument.addOnce,
    List.mem_eraseDups]

/-- The state of loading: what has been met so far, and what waits. The requests for which there
are documents are those met, or one more. -/
structure Progress (setting : Setting) (roots : List Path) (set : SchemaSet)
    (seen met pending : List Request) : Prop where
  issued : met ++ pending = rootRequests roots ++ set.requests
  locations : set.locations = (seen.map Request.location).eraseDups
  children : ∀ parent,
    set.children parent = idsOf set (met.filter fun request => request.parent = parent)
  holds : ∀ document ∈ set.documents, ∃ alone,
    setting.Holds (.file document.path) document.document alone ∧
      document.schema.directives = alone.directives
  found : ∀ location ∈ set.locations, Found (rootLocations roots) setting.targets location
  room : set.size ≤ setting.limits.documents

variable {setting : Setting} {roots : List Path} {set : SchemaSet}
  {seen met pending rest : List Request} {request : Request}

theorem progress_begin (setting : Setting) (roots : List Path) :
    Progress setting roots {} [] [] (begin roots).pending where
  issued := by simp [rootRequests, SchemaSet.requests]
  locations := rfl
  children parent := by
    cases parent with
    | none => rfl
    | some parent => rfl
  holds := by simp
  found := by simp [SchemaSet.locations]
  room := Nat.zero_le _

namespace Progress

theorem nodup (h : Progress setting roots set seen met pending) : set.locations.Nodup := by
  rw [h.locations]
  exact nodup_eraseDups _

theorem targets_eq (h : Progress setting roots set seen met pending) {document : SchemaDocument}
    (hdocument : document ∈ set.documents) :
    document.schema.targets document.path = setting.links (.file document.path) := by
  obtain ⟨alone, hholds, hdirectives⟩ := h.holds document hdocument
  rw [Setting.links_of_holds hholds, Schema.targets, Schema.targets, hdirectives]
  rfl

theorem parent_lt (h : Progress setting roots set seen met pending)
    (hrequest : request ∈ met ++ pending) (number : DocumentId) (kind : LinkKind)
    (hparent : request.parent = some (number, kind)) : number.index < set.size := by
  rw [h.issued] at hrequest
  rcases List.mem_append.mp hrequest with hroot | hmade
  · obtain ⟨path, _, rfl⟩ := List.mem_map.mp hroot
    cases hparent
  · obtain ⟨⟨targets, index⟩, hentry, hmem⟩ := List.mem_flatMap.mp hmade
    obtain ⟨target, _, rfl⟩ := List.mem_map.mp hmem
    cases hparent
    have hlt := (List.mem_zipIdx hentry).2.1
    simpa [SchemaSet.size] using hlt

theorem found_of_mem (h : Progress setting roots set seen met pending)
    (hrequest : request ∈ met ++ pending) :
    Found (rootLocations roots) setting.targets request.location := by
  rw [h.issued] at hrequest
  rcases List.mem_append.mp hrequest with hroot | hmade
  · obtain ⟨path, hpath, rfl⟩ := List.mem_map.mp hroot
    exact .start (List.mem_map.mpr ⟨path, hpath, rfl⟩)
  · obtain ⟨⟨targets, index⟩, hentry, hmem⟩ := List.mem_flatMap.mp hmade
    obtain ⟨target, htarget, rfl⟩ := List.mem_map.mp hmem
    have htargets := List.fst_mem_of_mem_zipIdx hentry
    obtain ⟨document, hdocument, rfl⟩ := List.mem_map.mp htargets
    have hmember := Array.mem_toList_iff.mp hdocument
    apply Found.target (h.found (.file document.path) (List.mem_map.mpr ⟨document, hdocument, rfl⟩))
    rw [Setting.targets, ← h.targets_eq hmember]
    exact List.mem_map.mpr ⟨target, htarget, rfl⟩

theorem meet {id : DocumentId}
    (h : Progress setting roots set (met ++ [request]) met (request :: rest))
    (hknown : known? set request.location = some id) :
    Progress setting roots (set.link request.parent id) (met ++ [request]) (met ++ [request])
      rest where
  issued := by
    rw [SchemaSet.requests_link, ← h.issued, List.append_assoc]
    rfl
  locations := by rw [SchemaSet.locations_link, h.locations]
  children parent := by
    have hmem : request ∈ met ++ request :: rest := by simp
    have hparent := h.parent_lt hmem
    rw [SchemaSet.children_link hparent, h.children, h.children,
      idsOf_congr fun _ _ => known?_congr (SchemaSet.locations_link request.parent id) _]
    by_cases heq : parent = request.parent
    · subst heq
      rw [if_pos rfl, List.filter_append, ← idsOf_concat hknown]
      simp
    · rw [if_neg heq, List.filter_append]
      simp [Ne.symm heq]
  holds document hdocument := by
    obtain ⟨old, hold, hpath, hschema, hsource⟩ := SchemaSet.exists_of_mem_link hdocument
    rw [hpath, hschema, hsource]
    exact h.holds old hold
  found := by
    rw [SchemaSet.locations_link]
    exact h.found
  room := by
    rw [SchemaSet.size_link]
    exact h.room

theorem add (h : Progress setting roots set met met (request :: rest))
    (hnew : known? set request.location = none) (hroom : set.size + 1 ≤ setting.limits.documents)
    {document : SchemaDocument} (hpath : document.path = ⟨request.location.text⟩)
    (hincludes : document.includes = []) (himports : document.imports = []) {alone : Schema}
    (hholds : setting.Holds request.location document.document alone)
    (hdirectives : document.schema.directives = alone.directives) (model : Model) :
    Progress setting roots (set.added document model) (met ++ [request]) met
      (request :: (rest ++ document.requests ⟨set.size⟩)) := by
  have hlocation : .file document.path = request.location := by
    rw [hpath]
    exact hholds.file.symm
  have hlocations : (set.added document model).locations = set.locations ++ [request.location] := by
    rw [SchemaSet.locations_added, hlocation]
  have hunseen := known?_eq_none_iff.mp hnew
  have hmet : ∀ other ∈ met, other.location ∈ set.locations := by
    intro other hother
    rw [h.locations]
    exact List.mem_eraseDups.mpr (List.mem_map_of_mem hother)
  constructor
  case issued =>
      rw [SchemaSet.requests_added, ← List.append_assoc, ← h.issued, List.append_assoc]
      rfl
  case locations =>
      rw [hlocations, List.map_append, List.map_cons, List.map_nil, eraseDups_concat, if_neg,
        h.locations]
      intro hmem
      obtain ⟨other, hother, heq⟩ := List.mem_map.mp hmem
      exact hunseen (heq ▸ hmet other hother)
  case children =>
      intro parent
      rw [SchemaSet.children_added hincludes himports, h.children]
      apply (idsOf_congr _).symm
      intro other hother
      exact known?_of_append (hmet other (List.mem_filter.mp hother).1) hlocations
  case holds =>
      intro found hfound
      rcases Array.mem_push.mp hfound with hold | rfl
      · exact h.holds found hold
      · rw [hlocation]
        exact ⟨alone, hholds, hdirectives⟩
  case found =>
      intro location hmem
      rw [hlocations] at hmem
      rcases List.mem_append.mp hmem with hold | hlast
      · exact h.found location hold
      · rw [List.mem_singleton.mp hlast]
        apply h.found_of_mem
        simp
  case room =>
      rw [SchemaSet.size_added]
      exact hroom

end Progress

/-! The loop. -/

/-- Meeting the requests for known documents leaves none of these in front. -/
theorem progress_settle (h : Progress setting roots set met met pending) :
    ∃ more, Progress setting roots (settle set pending).set more more
        (settle set pending).pending ∧
      ∀ request rest, (settle set pending).pending = request :: rest →
        known? (settle set pending).set request.location = none := by
  induction pending generalizing set met with
  | nil =>
      refine ⟨met, h, ?_⟩
      intro request rest heq
      cases heq
  | cons first rest ih =>
      cases hknown : known? set first.location with
      | none =>
          simp only [settle, hknown]
          refine ⟨met, h, ?_⟩
          rintro request others ⟨⟩
          exact hknown
      | some id =>
          simp only [settle, hknown]
          have hmem : first.location ∈ set.locations := by
            apply Decidable.byContradiction
            intro hnew
            rw [known?_eq_none_iff.mpr hnew] at hknown
            cases hknown
          rw [h.locations] at hmem
          have hseen : set.locations = ((met ++ [first]).map Request.location).eraseDups := by
            rw [h.locations, List.map_append, List.map_cons, List.map_nil, eraseDups_concat,
              if_pos (List.mem_eraseDups.mp hmem)]
          have hmet : Progress setting roots set (met ++ [first]) met (first :: rest) :=
            { h with locations := hseen }
          exact ih (hmet.meet hknown)

theorem progress_supply {next : Loading}
    (h : Progress setting roots set met met (request :: rest))
    (hnew : known? set request.location = none)
    (hnext : supply ⟨set, rest⟩ setting.limits setting.permissive request
      (request.location.readFrom setting.tree) = .ok next) :
    Progress setting roots next.set (met ++ [request]) (met ++ [request]) next.pending := by
  obtain ⟨hroom, document, alone, model, hpath, hincludes, himports, hholds, hdirectives, rfl⟩ :=
    supply_eq_ok hnext
  have hadded := h.add hnew hroom hpath hincludes himports hholds hdirectives model
  apply hadded.meet
  apply known?_last (known?_eq_none_iff.mp hnew)
  rw [SchemaSet.locations_added, hpath, ← hholds.file]

/-- Why loading cannot succeed. -/
def Hopeless (setting : Setting) (roots : List Path) : Prop :=
  (∃ location, Found (rootLocations roots) setting.targets location ∧
    ¬ setting.Loadable location) ∨
  ∃ members : List Location, members.Nodup ∧
    (∀ location ∈ members, Found (rootLocations roots) setting.targets location) ∧
      setting.limits.documents < members.length

theorem hopeless_of_supply {request : Request} {rest : List Request} {error : Error}
    (h : Progress setting roots set met met (request :: rest))
    (hnew : known? set request.location = none)
    (herror : supply ⟨set, rest⟩ setting.limits setting.permissive request
      (request.location.readFrom setting.tree) = .error error) :
    Hopeless setting roots := by
  have hmem : request ∈ met ++ request :: rest := by simp
  have hfound := h.found_of_mem hmem
  by_cases hload : setting.Loadable request.location
  · right
    refine ⟨set.locations ++ [request.location], ?_, ?_, ?_⟩
    · exact nodup_concat h.nodup (known?_eq_none_iff.mp hnew)
    · intro location hlocation
      rcases List.mem_append.mp hlocation with hold | hlast
      · exact h.found location hold
      · rw [List.mem_singleton.mp hlast]
        exact hfound
    · apply Nat.lt_of_not_le
      intro hroom
      rw [List.length_append, set.length_locations] at hroom
      obtain ⟨next, hnext⟩ := exists_supply hroom hload
      rw [herror] at hnext
      cases hnext
  · exact .inl ⟨request.location, hfound, hload⟩

/-- The loop ends with everything met, unless it was hopeless. -/
theorem progress_run (h : Progress setting roots state.set met met state.pending) :
    (∃ set more, run setting.limits setting.permissive (Location.readFrom setting.tree) state =
        .ok set ∧ Progress setting roots set more more []) ∨
      (∃ error, run setting.limits setting.permissive (Location.readFrom setting.tree) state =
        .error error) ∧ Hopeless setting roots := by
  fun_induction run setting.limits setting.permissive (Location.readFrom setting.tree) state
    generalizing met with
  | case1 state set hsettled =>
      obtain ⟨more, hdone, _⟩ := progress_settle h
      rw [hsettled] at hdone
      exact .inl ⟨set, more, rfl, hdone⟩
  | case2 state set request rest hsettled error hnext =>
      obtain ⟨more, hsettle, hfirst⟩ := progress_settle h
      rw [hsettled] at hsettle hfirst
      exact .inr ⟨⟨error, rfl⟩, hopeless_of_supply hsettle (hfirst request rest rfl) hnext⟩
  | case3 state set request rest hsettled next hnext _ ih =>
      obtain ⟨more, hsettle, hfirst⟩ := progress_settle h
      rw [hsettled] at hsettle hfirst
      exact ih (progress_supply hsettle (hfirst request rest rfl) hnext)

end Loading

end SchemaBinding
