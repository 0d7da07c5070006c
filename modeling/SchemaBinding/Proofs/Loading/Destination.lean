import SchemaBinding.Proofs.Loading.Loaded
import SchemaBinding.Proofs.Report

namespace SchemaBinding

namespace Path

def enter : List String → Step → List String
  | names, .up => names.tail
  | names, .down name => name :: names

def enterAll (start : List String) (steps : List Step) : List String :=
  steps.foldl enter start

/-- The number of levels that steps come above where they start. -/
def climbOf : List Step → Nat
  | [] => 0
  | .up :: rest => climbOf rest + 1
  | .down _ :: rest => climbOf rest - 1

theorem enterAll_cons (start : List String) (step : Step) (rest : List Step) :
    enterAll start (step :: rest) = enterAll (enter start step) rest :=
  rfl

/-- Steps leave the levels alone that they do not come above. -/
theorem enterAll_eq (start : List String) (steps : List Step) :
    enterAll start steps = enterAll [] steps ++ start.drop (climbOf steps) := by
  induction steps generalizing start with
  | nil => rfl
  | cons step rest ih =>
      cases step with
      | up =>
          have htail : start.tail.drop (climbOf rest) = start.drop (climbOf rest + 1) := by
            rw [← List.drop_one, List.drop_drop, Nat.add_comm]
          rw [enterAll_cons, enter, ih, htail]
          rfl
      | down name =>
          have hdrop : (name :: start).drop (climbOf rest) =
              [name].drop (climbOf rest) ++ start.drop (climbOf rest - 1) := by
            cases climbOf rest <;> simp
          rw [enterAll_cons, enterAll_cons, enter, enter, ih (name :: start), ih [name], hdrop,
            List.append_assoc, climbOf]

theorem mem_enterAll {start : List String} {steps : List Step} {name : String}
    (h : name ∈ enterAll start steps) : name ∈ start ∨ .down name ∈ steps := by
  induction steps generalizing start with
  | nil => exact .inl h
  | cons step rest ih =>
      rcases ih h with hstart | hlater
      · cases step with
        | up => exact .inl (List.mem_of_mem_tail hstart)
        | down other =>
            rcases List.mem_cons.mp hstart with rfl | hold
            · exact .inr List.mem_cons_self
            · exact .inl hold
      · exact .inr (List.mem_cons_of_mem step hlater)

theorem foldSteps_cons (names : List String) (step : Step) (rest : List Step) :
    foldSteps names (step :: rest) = foldSteps (stepFrom names step) rest :=
  rfl

theorem stepFrom_down (names : List String) (name : String) :
    stepFrom names (.down name) = name :: names := by
  cases names <;> rfl

/-- Folding keeps no step up for each level above the start: the second of two takes the first
away. So what is kept tells an odd number of levels from an even one. -/
theorem foldSteps_eq_enterAll (names : List String) (ups : Nat) (steps : List Step) :
    foldSteps (names ++ List.replicate (ups % 2) "..") steps =
      enterAll names steps ++
        List.replicate ((ups + (climbOf steps - names.length)) % 2) ".." := by
  induction steps generalizing names ups with
  | nil => simp [foldSteps, enterAll, climbOf]
  | cons step rest ih =>
      cases step with
      | down name =>
          have hlevels : climbOf rest - (name :: names).length =
              climbOf rest - 1 - names.length := by
            rw [List.length_cons]
            omega
          rw [foldSteps_cons, stepFrom_down, ← List.cons_append, ih, hlevels]
          rfl
      | up =>
          cases names with
          | cons name outer =>
              have hlevels : climbOf rest + 1 - (name :: outer).length =
                  climbOf rest - outer.length := by
                rw [List.length_cons]
                omega
              rw [climbOf, hlevels]
              exact ih outer ups
          | nil =>
              -- at the start a step up is kept, or takes away the one that was kept before
              have hstep : stepFrom (List.replicate (ups % 2) "..") .up =
                  List.replicate ((ups + 1) % 2) ".." := by
                rcases Nat.mod_two_eq_zero_or_one ups with hups | hups
                · rw [hups, show (ups + 1) % 2 = 1 by omega]
                  rfl
                · rw [hups, show (ups + 1) % 2 = 0 by omega]
                  rfl
              have hlevels : ups + 1 + (climbOf rest - 0) = ups + (climbOf rest + 1 - 0) := by
                omega
              have hrest := ih [] (ups + 1)
              rw [List.nil_append, List.length_nil, hlevels] at hrest
              rw [foldSteps_cons, List.nil_append, hstep, hrest]
              rfl

variable (path : Path)

/-- The number of levels that a path comes above the directory it starts from. An absolute one
starts from none. -/
def climb : Nat :=
  if path.isAbsolute then 0 else climbOf path.steps

/-- The directory that the steps of a path are taken from. -/
def origin (start : List String) : List String :=
  if path.isAbsolute then [] else start

/-- Where a path leads from a directory. -/
def destination (start : List String) : List String :=
  enterAll (path.origin start) path.steps

theorem destination_eq (start : List String) :
    path.destination start =
      enterAll [] path.steps ++ (path.origin start).drop (climbOf path.steps) :=
  enterAll_eq _ _

theorem foldedNames_eq : path.foldedNames =
    List.replicate (climbOf path.steps % 2) ".." ++ (enterAll [] path.steps).reverse := by
  have hfold := foldSteps_eq_enterAll [] 0 path.steps
  simp only [Nat.zero_mod, List.replicate_zero, List.append_nil, List.length_nil, Nat.sub_zero,
    Nat.zero_add] at hfold
  rw [foldedNames, hfold, List.reverse_append, List.reverse_replicate]

theorem steps_normalize_eq : path.normalize.steps =
    List.replicate (climbOf path.steps % 2) .up ++
      (enterAll [] path.steps).reverse.map .down := by
  have hups : (List.replicate (climbOf path.steps % 2) "..").filterMap stepOf? =
      List.replicate (climbOf path.steps % 2) .up := by
    rw [List.filterMap_replicate]
    rfl
  have hplain : ∀ name ∈ (enterAll [] path.steps).reverse,
      stepOf? name = (some ∘ Step.down) name := by
    intro name hname
    rcases mem_enterAll (List.mem_reverse.mp hname) with hnone | hdown
    · cases hnone
    · exact (plain_of_mem_steps hdown).step
  rw [steps_normalize, foldedNames_eq, List.filterMap_append, hups, List.filterMap_congr hplain,
    List.filterMap_eq_map]

/-! Normal paths. -/

theorem climbOf_map_down (names : List String) : climbOf (names.map .down) = 0 := by
  induction names with
  | nil => rfl
  | cons name rest ih => rw [List.map_cons, climbOf, ih]

theorem climbOf_replicate_up (levels : Nat) (rest : List Step) :
    climbOf (List.replicate levels .up ++ rest) = climbOf rest + levels := by
  induction levels with
  | zero => rfl
  | succ levels ih => rw [List.replicate_succ, List.cons_append, climbOf, ih, Nat.add_assoc]

theorem enterAll_map_down (start names : List String) :
    enterAll start (names.map .down) = names.reverse ++ start := by
  induction names generalizing start with
  | nil => rfl
  | cons name rest ih =>
      rw [List.map_cons, enterAll_cons, ih, enter, List.reverse_cons, List.append_assoc]
      rfl

theorem enterAll_replicate_up (levels : Nat) (rest : List Step) :
    enterAll [] (List.replicate levels .up ++ rest) = enterAll [] rest := by
  induction levels with
  | zero => rfl
  | succ levels ih =>
      rw [List.replicate_succ, List.cons_append, enterAll_cons, enter, List.tail_nil, ih]

theorem climbOf_normalize : climbOf path.normalize.steps = climbOf path.steps % 2 := by
  rw [steps_normalize_eq, climbOf_replicate_up, climbOf_map_down, Nat.zero_add]

theorem enterAll_normalize : enterAll [] path.normalize.steps = enterAll [] path.steps := by
  rw [steps_normalize_eq, enterAll_replicate_up, enterAll_map_down, List.reverse_reverse,
    List.append_nil]

theorem destination_normalize (start : List String) :
    path.normalize.destination start =
      enterAll [] path.steps ++ (path.origin start).drop (climbOf path.steps % 2) := by
  rw [destination_eq, enterAll_normalize, climbOf_normalize, origin, isAbsolute_normalize, origin]

variable {path} {first second : Path} {start : List String}

theorem drop_eq_drop_iff {levels others : Nat} (hlevels : levels ≤ start.length)
    (hothers : others ≤ start.length) :
    start.drop levels = start.drop others ↔ levels = others := by
  constructor
  · intro h
    have hlength := congrArg List.length h
    rw [List.length_drop, List.length_drop] at hlength
    omega
  · rintro rfl
    rfl

theorem destination_normalize_iff (h : path.climb ≤ start.length) :
    path.normalize.destination start = path.destination start ↔ path.climb ≤ 1 := by
  rw [destination_normalize, destination_eq, List.append_cancel_left_eq]
  rw [climb] at h ⊢
  cases habsolute : path.isAbsolute with
  | true => simp [origin, habsolute]
  | false =>
      simp only [habsolute, Bool.false_eq_true, if_false] at h
      have hodd : climbOf path.steps % 2 ≤ start.length := (Nat.mod_le _ _).trans h
      simp only [origin, habsolute, Bool.false_eq_true, if_false, drop_eq_drop_iff hodd h]
      omega

/-- Paths with one normal form differ in the levels that they climb at most. -/
theorem destination_eq_iff (hkey : first.normalize = second.normalize)
    (hfirst : first.climb ≤ start.length) (hsecond : second.climb ≤ start.length) :
    first.destination start = second.destination start ↔ first.climb = second.climb := by
  have hnames : enterAll [] second.steps = enterAll [] first.steps := by
    rw [← enterAll_normalize, ← hkey, enterAll_normalize]
  have habsolute : second.isAbsolute = first.isAbsolute := by
    rw [← isAbsolute_normalize, ← hkey, isAbsolute_normalize]
  rw [destination_eq, destination_eq, hnames, origin, origin, List.append_cancel_left_eq]
  rw [climb] at hfirst hsecond ⊢
  rw [climb]
  rw [habsolute] at hsecond ⊢
  cases hroot : first.isAbsolute with
  | true => simp
  | false =>
      simp only [hroot, Bool.false_eq_true, if_false] at hfirst hsecond
      simp only [Bool.false_eq_true, if_false, drop_eq_drop_iff hfirst hsecond]

end Path

/-! What loading is asked for. -/

namespace Location

def written (text : String) (base : Path) : Location :=
  match Url.parse? text with
  | none => .file (base.join ⟨text⟩)
  | some url =>
      if url.scheme = "file" then
        match url.filePath? with
        | some path => .file ⟨path⟩
        | none => .file (base.join ⟨text⟩)
      else if url.scheme.length = 1 then .file (base.join ⟨text⟩)
      else .remote url

def normal : Location → Location
  | file path => .file path.normalize
  | remote url => .remote url

theorem resolve_eq (text : String) (base : Path) :
    resolve text base = (written text base).normal := by
  unfold resolve written ofPath
  cases Url.parse? text with
  | none => rfl
  | some url =>
      simp only
      split
      · cases url.filePath? <;> rfl
      · split <;> rfl

end Location

def Directive.location? : Directive → Option String
  | .inclusion location => some location
  | .importing _ location => location

theorem Directive.exists_target? {directive : Directive} {text : String}
    (h : directive.location? = some text) (base : Path) :
    ∃ kind, directive.target? base = some (kind, .resolve text base) := by
  cases directive with
  | inclusion location =>
      cases h
      exact ⟨.inclusion, rfl⟩
  | importing space location =>
      cases h
      exact ⟨.importing, rfl⟩

namespace SchemaSet

/-- A root, or a path that a schema location in a document of the set points to. -/
inductive AsksFor (set : SchemaSet) (roots : List Path) : Path → Prop
  | root {path : Path} : path ∈ roots → AsksFor set roots path
  | target {document : SchemaDocument} {directive : Directive} {text : String} {path : Path} :
      document ∈ set.documents → directive ∈ document.schema.directives →
        directive.location? = some text →
          Location.written text document.path.directory = .file path → AsksFor set roots path

variable {setting : Setting} {roots : List Path} {set : SchemaSet} {path : Path}

theorem ClosureOf.targets_eq (h : set.ClosureOf setting roots) {document : SchemaDocument}
    (hdocument : document ∈ set.documents) :
    setting.targets (.file document.path) =
      (document.schema.targets document.path).map Prod.snd := by
  obtain ⟨alone, hholds, hdirectives⟩ := h.holds document hdocument
  rw [Setting.targets, Setting.links_of_holds hholds, Schema.targets, Schema.targets, hdirectives]
  rfl

theorem ClosureOf.found_of_asksFor (h : set.ClosureOf setting roots)
    (hasked : set.AsksFor roots path) :
    Found (rootLocations roots) setting.targets (.file path.normalize) := by
  cases hasked with
  | root hroot => exact .start (List.mem_map_of_mem hroot)
  | @target document directive text path hdocument hdirective hlocation hwritten =>
      have hmem : .file document.path ∈ set.locations :=
        List.mem_map_of_mem (Array.mem_toList_iff.mpr hdocument)
      apply Found.target ((h.mem_iff _).mp hmem)
      obtain ⟨kind, htarget⟩ := directive.exists_target? hlocation document.path.directory
      rw [Location.resolve_eq, hwritten] at htarget
      rw [h.targets_eq hdocument]
      exact List.mem_map.mpr ⟨_, List.mem_filterMap.mpr ⟨directive, hdirective, htarget⟩, rfl⟩

theorem ClosureOf.exists_document (h : set.ClosureOf setting roots)
    (hasked : set.AsksFor roots path) :
    ∃ id document, set.documentByPath? path = some id ∧ set.document? id = some document ∧
      document.path = path.normalize := by
  obtain ⟨document, hmem, hpath⟩ :=
    List.mem_map.mp ((h.mem_iff _).mpr (h.found_of_asksFor hasked))
  obtain ⟨index, hindex⟩ := Array.mem_iff_getElem?.mp (Array.mem_toList_iff.mp hmem)
  have hnormal : document.path = path.normalize := Location.file.inj hpath
  have hfound := (h.byPath path ⟨index⟩).mpr ⟨document, hindex, hnormal⟩
  exact ⟨⟨index⟩, document, hfound, hindex, hnormal⟩

/-- Folding keeps where a path leads exactly when the path climbs one level at most. So of the paths
that a loading is asked for, two with one document may lead to two files, which they do exactly when
they climb unequally far. -/
theorem destinations_kept (path : Path) {start : List String}
    (hlevels : path.climb ≤ start.length) :
    (path.normalize.destination start = path.destination start ↔ path.climb ≤ 1) ∧
    ∀ (setting : Setting) (roots : List Path) (set : SchemaSet),
      load setting.tree roots setting.limits setting.permissive = .ok set →
        set.AsksFor roots path → ∀ other, set.AsksFor roots other →
          ∃ id next, set.documentByPath? path = some id ∧
            set.documentByPath? other = some next ∧
            (id = next → other.climb ≤ start.length →
              (path.destination start = other.destination start ↔ path.climb = other.climb)) := by
  refine ⟨path.destination_normalize_iff hlevels, ?_⟩
  intro setting roots set hload hasked other hasked'
  have hclosure := closureOf_of_load hload
  obtain ⟨id, document, hid, hdocument, hpath⟩ := hclosure.exists_document hasked
  obtain ⟨next, document', hnext, hdocument', hpath'⟩ := hclosure.exists_document hasked'
  refine ⟨id, next, hid, hnext, ?_⟩
  rintro rfl hlevels'
  rw [hdocument] at hdocument'
  cases hdocument'
  exact Path.destination_eq_iff (hpath.symm.trans hpath') hlevels hlevels'

end SchemaSet

/-! A root and another one two levels up, which folds to the first. -/

namespace Climbing

def text : String :=
  "<schema xmlns=\"http://www.w3.org/2001/XMLSchema\"/>"

def near : Path := ⟨"a.xsd"⟩

def far : Path := ⟨"../../a.xsd"⟩

def setting : Setting where
  tree := ⟨[(⟨.above 0, ["a.xsd"]⟩, .file (.text text))]⟩
  limits := .strict
  permissive := false

def request : Request := ⟨.file near, none⟩

theorem exists_loaded : ∃ first, Loading.supply ⟨{}, [request]⟩ setting.limits setting.permissive
      request (.ok text) = .ok first ∧ first.pending = [request] ∧
    Loading.known? first.set request.location = some ⟨0⟩ :=
  exists_ok_of_map (by decide +kernel)

theorem exists_load : ∃ set, SchemaSet.load setting.tree [near, far] setting.limits
    setting.permissive = .ok set := by
  obtain ⟨first, hfirst, hpending, hknown⟩ := exists_loaded
  have hbegun : Loading.begin [near, far] = ⟨{}, [request, request]⟩ := by cbv
  have hbegin : Loading.settle {} [request, request] = ⟨{}, [request, request]⟩ := by cbv
  have hsettle : Loading.settle first.set first.pending =
      ⟨first.set.link none ⟨0⟩, []⟩ := by
    rw [hpending, Loading.settle, hknown]
    rfl
  have hread : Location.readFrom setting.tree request.location = .ok text :=
    Location.readFrom_single text
  refine ⟨first.set.link none ⟨0⟩, ?_⟩
  rw [SchemaSet.load, hbegun, Loading.run_of_supply hbegin hread hfirst, Loading.run_eq, hsettle]

theorem asksFor_near (set : SchemaSet) : set.AsksFor [near, far] near :=
  .root List.mem_cons_self

theorem asksFor_far (set : SchemaSet) : set.AsksFor [near, far] far :=
  .root (List.mem_cons_of_mem near List.mem_cons_self)

theorem climb_near : near.climb = 0 := by
  decide +kernel

theorem climb_far : far.climb = 2 := by
  decide +kernel

theorem normalize_far : far.normalize = near.normalize := by
  decide +kernel

end Climbing

open Climbing

/-- From the directory work in home, the far path leads to a file at the root. Folding makes it lead
to one in the directory itself, which is the document of both paths. -/
theorem SchemaSet.one_document_for_two_files :
    ∃ set, load setting.tree [near, far] setting.limits setting.permissive = .ok set ∧
      set.AsksFor [near, far] near ∧ set.AsksFor [near, far] far ∧
      set.documentByPath? near = set.documentByPath? far ∧
      (set.documentByPath? near).isSome ∧ far.climb = 2 ∧
      near.destination ["work", "home"] = ["a.xsd", "work", "home"] ∧
      far.destination ["work", "home"] = ["a.xsd"] ∧
      far.normalize.destination ["work", "home"] = ["a.xsd", "work", "home"] := by
  obtain ⟨set, hload⟩ := exists_load
  obtain ⟨id, _, hid, _⟩ := (closureOf_of_load hload).exists_document (asksFor_near set)
  refine ⟨set, hload, asksFor_near set, asksFor_far set, ?_, ?_, climb_far, ?_⟩
  · rw [documentByPath?, documentByPath?, normalize_far]
  · rw [hid]
    rfl
  · decide +kernel

theorem SchemaSet.destinations_kept_far :
    ∃ set id next, load setting.tree [near, far] setting.limits setting.permissive = .ok set ∧
      set.AsksFor [near, far] near ∧ set.AsksFor [near, far] far ∧
      set.documentByPath? far = some id ∧ set.documentByPath? near = some next ∧ id = next ∧
      far.climb ≤ ["work", "home"].length ∧ near.climb ≤ ["work", "home"].length ∧
      far.normalize.destination ["work", "home"] ≠ far.destination ["work", "home"] ∧
      far.destination ["work", "home"] ≠ near.destination ["work", "home"] := by
  have hfar : far.climb ≤ ["work", "home"].length := by
    rw [climb_far]
    decide
  have hnear : near.climb ≤ ["work", "home"].length := by
    rw [climb_near]
    decide
  obtain ⟨hkept, hasked⟩ := destinations_kept far hfar
  obtain ⟨set, hload⟩ := exists_load
  obtain ⟨id, next, hid, hnext, hsame⟩ :=
    hasked setting [near, far] set hload (asksFor_far set) near (asksFor_near set)
  have hone : id = next := by
    rw [documentByPath?, normalize_far, ← documentByPath?, hnext] at hid
    exact (Option.some.inj hid).symm
  refine ⟨set, id, next, hload, asksFor_near set, asksFor_far set, hid, hnext, hone, hfar, hnear,
    ?_, ?_⟩
  · rw [ne_eq, hkept, climb_far]
    decide
  · rw [ne_eq, hsame hone hnear, climb_far, climb_near]
    decide

end SchemaBinding
