import SchemaBinding.Proofs.Loading.Progress
import SchemaBinding.Proofs.Path

namespace SchemaBinding

theorem Location.normal_of_resolve {text : String} {base path : Path}
    (h : resolve text base = .file path) : path.normalize = path := by
  unfold resolve ofPath at h
  split at h
  · cases h
    exact Path.normalize_normalize _
  · split at h
    · split at h
      all_goals
        cases h
        exact Path.normalize_normalize _
    · split at h
      · cases h
        exact Path.normalize_normalize _
      · cases h

theorem Directive.exists_of_target?_eq {base : Path} {directive : Directive}
    {target : LinkKind × Location} (h : directive.target? base = some target) :
    ∃ text, target.2 = .resolve text base := by
  cases directive with
  | inclusion location =>
      cases h
      exact ⟨location, rfl⟩
  | importing space location =>
      cases location with
      | none => cases h
      | some location =>
          cases h
          exact ⟨location, rfl⟩

namespace SchemaSet

variable {set : SchemaSet}

def location? (set : SchemaSet) (id : DocumentId) : Option Location :=
  set.locations[id.index]?

theorem location?_eq_some_iff {id : DocumentId} {location : Location} :
    set.location? id = some location ↔
      ∃ document, set.document? id = some document ∧ .file document.path = location := by
  rw [location?, locations, List.getElem?_map, Option.map_eq_some_iff, Array.getElem?_toList]
  rfl

end SchemaSet

namespace Loading

variable {setting : Setting} {roots : List Path} {set : SchemaSet}

theorem known?_eq_some_iff (hnodup : set.locations.Nodup) {location : Location}
    {id : DocumentId} :
    known? set location = some id ↔ set.location? id = some location := by
  rw [known?_eq, Option.map_eq_some_iff, SchemaSet.location?]
  simp only [List.findIdx?_eq_some_iff_getElem, beq_iff_eq]
  constructor
  · rintro ⟨index, ⟨hlt, heq, _⟩, rfl⟩
    rw [List.getElem?_eq_getElem hlt, heq]
  · intro h
    obtain ⟨hlt, heq⟩ := List.getElem?_eq_some_iff.mp h
    refine ⟨id.index, ⟨hlt, heq, ?_⟩, rfl⟩
    intro other hother hsame
    rw [← heq] at hsame
    have hindex := (List.Nodup.getElem_inj_iff hnodup).mp hsame
    omega

theorem map_location?_idsOf (hnodup : set.locations.Nodup) {requests : List Request}
    (h : ∀ request ∈ requests, request.location ∈ set.locations) :
    (idsOf set requests).map set.location? =
      (requests.map Request.location).eraseDups.map some := by
  induction requests using List.reverseRecOn with
  | nil => rfl
  | append_singleton requests request ih =>
      have hprevious := ih fun other hother => h other (List.mem_append_left _ hother)
      obtain ⟨index, hlt, heq⟩ := List.getElem_of_mem (h request (by simp))
      have hplace : set.location? ⟨index⟩ = some request.location := by
        rw [SchemaSet.location?, List.getElem?_eq_getElem hlt, heq]
      have hknown := (known?_eq_some_iff hnodup).mpr hplace
      have hmem : (⟨index⟩ : DocumentId) ∈ idsOf set requests ↔
          request.location ∈ requests.map Request.location := by
        rw [idsOf, List.mem_eraseDups, List.mem_filterMap, List.mem_map]
        constructor
        · rintro ⟨other, hother, hsame⟩
          have hlocation := (known?_eq_some_iff hnodup).mp hsame
          rw [hplace] at hlocation
          exact ⟨other, hother, (Option.some.inj hlocation).symm⟩
        · rintro ⟨other, hother, hsame⟩
          rw [← hsame] at hknown
          exact ⟨other, hother, hknown⟩
      rw [idsOf_concat hknown, SchemaDocument.addOnce, List.map_append, List.map_cons,
        List.map_nil, eraseDups_concat]
      by_cases hold : (⟨index⟩ : DocumentId) ∈ idsOf set requests
      · rw [if_pos hold, if_pos (hmem.mp hold), hprevious]
      · rw [if_neg hold, if_neg (mt hmem.mpr hold), List.map_append, hprevious, List.map_append]
        simp [hplace]

/-! Who asked for what. -/

theorem filter_rootRequests (roots : List Path) (parent : Option (DocumentId × LinkKind)) :
    (rootRequests roots).filter (fun request => request.parent = parent) =
      if parent = none then rootRequests roots else [] := by
  have hnone : ∀ request ∈ rootRequests roots, request.parent = none := by
    intro request hrequest
    obtain ⟨path, _, rfl⟩ := List.mem_map.mp hrequest
    rfl
  split
  case isTrue heq =>
      rw [List.filter_eq_self]
      intro request hrequest
      rw [hnone request hrequest, heq]
      rfl
  case isFalse hne =>
      rw [List.filter_eq_nil_iff]
      intro request hrequest hsame
      rw [hnone request hrequest] at hsame
      exact hne (of_decide_eq_true hsame).symm

theorem filter_requests_none (set : SchemaSet) :
    set.requests.filter (fun request => request.parent = none) = [] := by
  rw [List.filter_eq_nil_iff]
  intro request hrequest hsame
  obtain ⟨index, kind, _, hparent⟩ := SchemaSet.le_of_mem_requestsFrom hrequest
  rw [hparent] at hsame
  cases of_decide_eq_true hsame

theorem filter_requests_some {id : DocumentId} {document : SchemaDocument}
    (h : set.document? id = some document) (kind : LinkKind) :
    set.requests.filter (fun request => request.parent = some (id, kind)) =
      ((document.schema.targets document.path).filter fun target => target.1 = kind).map
        fun target => ⟨target.2, some (id, target.1)⟩ := by
  have htargets : (set.documents.toList.map fun document =>
      document.schema.targets document.path)[id.index]? =
        some (document.schema.targets document.path) := by
    rw [List.getElem?_map, Array.getElem?_toList]
    exact congrArg _ h
  have hfilter := SchemaSet.filter_requestsFrom (set.documents.toList.map fun document =>
    document.schema.targets document.path) 0 id.index kind
  rw [htargets, Nat.zero_add] at hfilter
  exact hfilter

theorem normal_of_found {path : Path}
    (h : Found (rootLocations roots) setting.targets (.file path)) : path.normalize = path := by
  cases h with
  | start hstart =>
      obtain ⟨root, _, hroot⟩ := List.mem_map.mp hstart
      cases hroot
      exact Path.normalize_normalize root
  | @target item _ _ hnext =>
      obtain ⟨target, htarget, hpath⟩ := List.mem_map.mp hnext
      unfold Setting.links at htarget
      split at htarget
      · obtain ⟨directive, _, hdirective⟩ := List.mem_filterMap.mp htarget
        obtain ⟨text, hresolve⟩ := Directive.exists_of_target?_eq hdirective
        rw [hresolve] at hpath
        exact Location.normal_of_resolve hpath
      · cases htarget

variable {met : List Request}

theorem Progress.met_eq (h : Progress setting roots set met met []) :
    met = rootRequests roots ++ set.requests := by
  have hissued := h.issued
  rw [List.append_nil] at hissued
  exact hissued

/-- What is loaded consists of the roots and of what the loaded documents ask for. -/
theorem Progress.locations_eq (h : Progress setting roots set met met []) :
    set.locations =
      (rootLocations roots ++ set.locations.flatMap setting.targets).eraseDups := by
  have hroots : (rootRequests roots).map Request.location = rootLocations roots := by
    rw [rootRequests, begin, List.map_map]
    rfl
  have hrequests : set.requests.map Request.location = set.locations.flatMap setting.targets := by
    rw [SchemaSet.map_location_requests, SchemaSet.locations, List.flatMap_map]
    apply List.flatMap_congr
    intro document hdocument
    rw [h.targets_eq (Array.mem_toList_iff.mp hdocument)]
    rfl
  rw [← hroots, ← hrequests, ← List.map_append, ← h.met_eq]
  exact h.locations

theorem mem_of_progress (h : Progress setting roots set met met []) {location : Location}
    (hfound : Found (rootLocations roots) setting.targets location) :
    location ∈ set.locations := by
  induction hfound with
  | start hstart =>
      rw [h.locations_eq]
      exact List.mem_eraseDups.mpr (List.mem_append_left _ hstart)
  | target _ hnext ih =>
      rw [h.locations_eq]
      apply List.mem_eraseDups.mpr
      exact List.mem_append_right _ (List.mem_flatMap.mpr ⟨_, ih, hnext⟩)

theorem map_location?_children (h : Progress setting roots set met met [])
    (parent : Option (DocumentId × LinkKind)) :
    (set.children parent).map set.location? =
      (((rootRequests roots ++ set.requests).filter fun request =>
        request.parent = parent).map Request.location).eraseDups.map some := by
  rw [h.children, ← h.met_eq]
  apply map_location?_idsOf h.nodup
  intro request hrequest
  rw [h.locations]
  exact List.mem_eraseDups.mpr (List.mem_map_of_mem (List.mem_filter.mp hrequest).1)

end Loading

/-- A set that holds what its roots lead to. -/
structure SchemaSet.ClosureOf (setting : Setting) (roots : List Path) (set : SchemaSet) :
    Prop where
  /-- Each location is loaded once. -/
  nodup : set.locations.Nodup
  mem_iff : ∀ location,
    location ∈ set.locations ↔ Found (rootLocations roots) setting.targets location
  /-- The documents stand in the order of discovery. -/
  order : ∀ rounds, set.size ≤ rounds →
    set.locations = discovered (rootLocations roots) setting.targets rounds
  holds : ∀ document ∈ set.documents, ∃ alone,
    setting.Holds (.file document.path) document.document alone ∧
      document.schema.directives = alone.directives
  roots : set.roots.map set.location? = (rootLocations roots).eraseDups.map some
  linked : ∀ id document kind, set.document? id = some document →
    (document.linked kind).map set.location? =
      (((setting.links (.file document.path)).filter fun target =>
        target.1 = kind).map Prod.snd).eraseDups.map some
  byPath : ∀ path id, set.documentByPath? path = some id ↔
    ∃ document, set.document? id = some document ∧ document.path = path.normalize
  normal : ∀ document ∈ set.documents, document.path.normalize = document.path

namespace Loading

variable {setting : Setting} {roots : List Path} {set : SchemaSet} {met : List Request}

theorem closureOf_of_progress (h : Progress setting roots set met met []) :
    set.ClosureOf setting roots := by
  have hmem : ∀ location,
      location ∈ set.locations ↔ Found (rootLocations roots) setting.targets location :=
    fun location => ⟨h.found location, mem_of_progress h⟩
  constructor
  case nodup => exact h.nodup
  case mem_iff => exact hmem
  case order =>
      intro rounds hrounds
      apply (discovered_eq h.locations_eq h.found _).symm
      rw [set.length_locations]
      exact hrounds
  case holds => exact h.holds
  case roots =>
      have hchildren := map_location?_children h none
      rw [List.filter_append, filter_rootRequests, if_pos rfl, filter_requests_none,
        List.append_nil, rootRequests, begin, List.map_map] at hchildren
      exact hchildren
  case linked =>
      intro id document kind hdocument
      have hchildren := map_location?_children h (some (id, kind))
      have htargets := h.targets_eq (Array.mem_of_getElem? hdocument)
      rw [List.filter_append, filter_rootRequests, if_neg (Option.some_ne_none _),
        filter_requests_some hdocument, List.nil_append, List.map_map, htargets] at hchildren
      rw [SchemaSet.children, hdocument] at hchildren
      exact hchildren
  case byPath =>
      intro path id
      have hknown : known? set (.file path.normalize) = some id ↔
          set.location? id = some (.file path.normalize) := known?_eq_some_iff h.nodup
      simp only [SchemaSet.location?_eq_some_iff, Location.file.injEq] at hknown
      exact hknown
  case normal =>
      intro document hdocument
      apply normal_of_found
      apply h.found
      exact List.mem_map.mpr ⟨document, Array.mem_toList_iff.mpr hdocument, rfl⟩

end Loading

end SchemaBinding
