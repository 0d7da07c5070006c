import SchemaBinding.Proofs.Discovery
import SchemaBinding.Proofs.Emission.Exact
import SchemaBinding.Proofs.Loading.Requests

namespace SchemaBinding

open Sink (GeneratedFile)

namespace Sink

theorem eq_of_append_slash_eq {first second firstRest secondRest : List Char}
    (hfirst : '/' ∉ firstRest) (hsecond : '/' ∉ secondRest)
    (h : first ++ '/' :: firstRest = second ++ '/' :: secondRest) :
    first = second ∧ firstRest = secondRest := by
  rcases List.append_eq_append_iff.mp h with ⟨between, rfl, heq⟩ | ⟨between, rfl, heq⟩
  · cases between with
    | nil =>
        cases heq
        exact ⟨(List.append_nil first).symm, rfl⟩
    | cons c rest =>
        cases heq
        exact absurd (List.mem_append_right rest List.mem_cons_self) hfirst
  · cases between with
    | nil =>
        cases heq
        exact ⟨List.append_nil second, rfl⟩
    | cons c rest =>
        cases heq
        exact absurd (List.mem_append_right rest List.mem_cons_self) hsecond

theorem notMem_of_isFileText {file : String} (h : Identifier.IsFileText file) :
    '/' ∉ file.toList :=
  fun hmem => Identifier.slash_ne_of_isFileChar (h '/' hmem) rfl

/-- A file name has no slash, so the last slash of a key is the one in front of it. -/
theorem key_inj {package other file otherFile : String} (hfile : Identifier.IsFileText file)
    (hother : Identifier.IsFileText otherFile) (h : key package file = key other otherFile) :
    package = other ∧ file = otherFile := by
  have hchars := congrArg String.toList h
  simp only [key, String.toList_append, List.append_assoc] at hchars
  obtain ⟨hpackage, hname⟩ := eq_of_append_slash_eq (notMem_of_isFileText hfile)
    (notMem_of_isFileText hother) hchars
  exact ⟨String.toList_inj.mp hpackage, String.toList_inj.mp hname⟩

def store (files : Table String String) (file : GeneratedFile) : Table String String :=
  files.put (key file.package file.file) file.contents

theorem logs_memory : memory.recorded.Logs fun files state =>
    state.2 = files ∧ state.1 = files.foldl store [] where
  taken := by
    rintro files package file contents ⟨before, noted⟩ ⟨after, more⟩ ⟨hnoted, hbefore⟩ hwrite
    cases hwrite
    refine ⟨congrArg (· ++ _) hnoted, ?_⟩
    rw [List.foldl_append, ← hbefore]
    rfl
  refused := by
    rintro files package file contents ⟨before, noted⟩ error ⟨after, more⟩ _ hwrite
    cases hwrite

theorem foldl_store {files : Table String String} {taken : List GeneratedFile}
    (h : (files.keys ++ taken.map fun file => key file.package file.file).Nodup) :
    taken.foldl store files =
      files ++ taken.map fun file => (key file.package file.file, file.contents) := by
  induction taken generalizing files with
  | nil => exact (List.append_nil files).symm
  | cons file rest ih =>
      have hnew : key file.package file.file ∉ files.keys := by
        intro hmem
        exact (List.nodup_append.mp h).2.2 _ hmem _ List.mem_cons_self rfl
      rw [List.foldl_cons, store, Table.put_of_notMem hnew, ih, List.append_assoc]
      · rfl
      · rw [Table.keys, List.map_append, List.append_assoc]
        exact h

end Sink

namespace Report

theorem sorted_packages (report : Report) : report.packages.Pairwise (· < ·) := by
  have hsorted : report.packages.Pairwise fun first second => decide (first ≤ second) = true :=
    List.pairwise_mergeSort (by simpa using fun _ _ _ => String.le_trans)
      (by simpa using String.le_total) _
  have hnodup : report.packages.Nodup :=
    (List.mergeSort_perm _ _).nodup_iff.mpr (nodup_eraseDups _)
  apply (hsorted.and hnodup).imp
  rintro first second ⟨hle, hne⟩
  exact lt_of_le_of_ne (of_decide_eq_true hle) hne

theorem mem_packages_iff {report : Report} {package : String} :
    package ∈ report.packages ↔ ∃ entry ∈ report.structs, entry.package = package := by
  rw [packages, List.mem_mergeSort, List.mem_eraseDups, List.mem_map]

/-- The files are those of the report's structs, in order and each under a key of its own, and
the report names their packages. -/
structure Fits (report : Report) (taken : List GeneratedFile) (files : Table String String) :
    Prop where
  listing : Listing taken report.structs
  stored : files = taken.map fun file => (Sink.key file.package file.file, file.contents)
  keys : files.keys = report.structs.map fun entry => Sink.key entry.package entry.file
  nodup : files.keys.Nodup
  length : files.length = report.structs.length
  sorted : report.packages.Pairwise (· < ·)
  packages : ∀ package,
    package ∈ report.packages ↔ ∃ entry ∈ report.structs, entry.package = package

end Report

theorem map_key_eq {structs : List EmittedStruct} {taken : List GeneratedFile}
    (h : List.Forall₂ EmittedStruct.IsIn structs taken) :
    (taken.map fun file => Sink.key file.package file.file) =
      structs.map fun entry => Sink.key entry.package entry.file := by
  induction h with
  | nil => rfl
  | cons hfirst _ ih =>
      obtain ⟨hpackage, hfile, _⟩ := hfirst
      rw [List.map_cons, List.map_cons, ih, hpackage, hfile]

namespace Emission

theorem Kept.nodup_keys {σ : Type} {set : SchemaSet} {Log : List GeneratedFile → σ → Prop}
    {emission : Emission σ} {taken : List GeneratedFile} (h : Kept set Log emission taken) :
    (emission.works.structs.map fun entry => Sink.key entry.package entry.file).Nodup := by
  have hnodup := (List.nodup_reverse.mpr h.files).sublist h.placed
  rw [List.Nodup, List.pairwise_map] at hnodup ⊢
  apply hnodup.imp_of_mem
  intro first second hfirst hsecond hne hkey
  have hsmall : ∀ entry ∈ emission.works.structs, Identifier.IsFileText entry.file := by
    intro entry hentry
    have hmem := h.placed.subset (List.mem_map_of_mem hentry)
    exact h.small _ (List.mem_reverse.mp hmem)
  obtain ⟨hpackage, hfile⟩ := Sink.key_inj (hsmall first hfirst) (hsmall second hsecond) hkey
  exact hne (Prod.ext hpackage hfile)

end Emission

namespace Generation

variable {σ τ : Type} {view : τ → σ} {sink : Sink τ} {other : Sink σ}

theorem write_actsAs (hsink : Sink.SeenAs view sink other) (set : SchemaSet)
    (options : Options) : ActsAs view (write set options sink) (write set options other) := by
  intro state
  have hroots : seenBy (Emission.mapSink view)
      (Emission.emitRoots set options sink { works := { sink := state } }) =
        Emission.emitRoots set options other { works := { sink := view state } } :=
    Emission.emitRoots_actsAs hsink set options _
  simp only [write, ← hroots]
  cases Emission.emitRoots set options sink { works := { sink := state } } <;> rfl

theorem run_actsAs (hsink : Sink.SeenAs view sink other) (tree : FileTree)
    (options : Options) : ActsAs view (run tree options sink) (run tree options other) := by
  unfold run
  cases load tree options with
  | error error => exact fun _ => rfl
  | ok set => exact write_actsAs hsink set options

theorem run_eq_ok_iff {tree : FileTree} {options : Options} {before after : τ}
    {report : Report} :
    run tree options sink before = .ok report after ↔
      ∃ set emission, load tree options = .ok set ∧
        Emission.emitRoots set options sink { works := { sink := before } } =
          .ok () emission ∧
        report = ⟨emission.works.structs, set.size⟩ ∧ after = emission.works.sink := by
  unfold run
  cases load tree options with
  | error error => simp [throw, throwThe, MonadExceptOf.throw, EStateM.throw]
  | ok set =>
      simp only [write, Except.ok.injEq, exists_and_left, exists_eq_left']
      cases Emission.emitRoots set options sink { works := { sink := before } } with
      | error error emission => simp
      | ok _ emission => simp [eq_comm]

theorem fits_of_run {tree : FileTree} {options : Options} {report : Report}
    {files : Table String String} {taken : List GeneratedFile}
    (h : run tree options Sink.memory.recorded ([], []) = .ok report (files, taken)) :
    report.Fits taken files := by
  obtain ⟨set, emission, _, hroots, rfl, hsink⟩ := run_eq_ok_iff.mp h
  have hstart : Emission.Kept set (fun files state => state.2 = files ∧
      state.1 = files.foldl Sink.store []) { works := { sink := ([], []) } } [] :=
    Emission.kept_start _ ⟨rfl, rfl⟩
  obtain ⟨found, hkept⟩ := (Emission.lasting_kept Sink.logs_memory).emitSeeds
    (Emission.seeds set options) ⟨[], hstart⟩
  change Emission.Kept set _ (stateAfter (Emission.emitRoots set options _ _)) found at hkept
  rw [hroots] at hkept
  obtain ⟨hnoted, hfiles⟩ := hkept.logged
  simp only [stateAfter, ← hsink] at hnoted hfiles
  subst hnoted
  have hkeys := map_key_eq hkept.matched
  have hnodup := hkept.nodup_keys
  have hstored : files =
      taken.map fun file => (Sink.key file.package file.file, file.contents) := by
    rw [hfiles, Sink.foldl_store, List.nil_append]
    exact hkeys ▸ hnodup
  have hfileKeys : files.keys =
      emission.works.structs.map fun entry => Sink.key entry.package entry.file := by
    rw [hstored, Table.keys, List.map_map]
    exact hkeys
  refine ⟨hkept.listing, hstored, hfileKeys, hfileKeys ▸ hnodup, ?_, Report.sorted_packages _,
    fun _ => Report.mem_packages_iff⟩
  rw [hstored, List.length_map]
  exact hkept.matched.length_eq.symm

/-- The structs that are listed after any calls on an emission are those of the files that its
sink took; and a run into memory that succeeds leaves the files of its report. -/
theorem exact_report :
    (∀ (σ : Type) (set : SchemaSet) (options : Options) (sink : Sink σ) (state : σ)
      (calls : List Emission.Call),
      let noted := Emission.afterCalls set options sink.recorded calls
        { works := { sink := (state, []) } }
      noted.mapSink Prod.fst =
          Emission.afterCalls set options sink calls { works := { sink := state } } ∧
        Listing noted.works.sink.2 noted.works.structs) ∧
    ∀ (tree : FileTree) (options : Options) (report : Report) (files : Table String String),
      run tree options Sink.memory [] = .ok report files →
        ∃ taken, run tree options Sink.memory.recorded ([], []) = .ok report (files, taken) ∧
          report.Fits taken files := by
  constructor
  · intro σ set options sink state calls noted
    refine ⟨Emission.mapSink_afterCalls sink.recorded_seenAs calls _, ?_⟩
    have hstart : Emission.Kept set (fun files (noted : σ × List GeneratedFile) =>
        noted.2 = files) { works := { sink := (state, []) } } [] :=
      Emission.kept_start _ rfl
    obtain ⟨taken, hkept⟩ :=
      (Emission.lasting_kept sink.logs_recorded).afterCalls calls ⟨[], hstart⟩
    have hnoted : noted.works.sink.2 = taken := hkept.logged
    rw [hnoted]
    exact hkept.listing
  · intro tree options report files h
    have hseen := run_actsAs Sink.memory.recorded_seenAs tree options ([], [])
    rw [h] at hseen
    obtain ⟨⟨stored, taken⟩, hrun, rfl⟩ := seenBy_eq_ok_iff.mp hseen
    exact ⟨taken, hrun, fits_of_run hrun⟩

end Generation

/-! Loading one document. -/

theorem Location.readFrom_single (text : String) :
    readFrom ⟨[(⟨.above 0, ["a.xsd"]⟩, .file (.text text))]⟩ (.file ⟨"a.xsd"⟩) = .ok text := by
  cbv

theorem SchemaSet.load_of_supply {tree : FileTree} {root : Path} {limits : Limits}
    {permissive : Bool} {text : String} {next : Loading}
    (hread : Location.readFrom tree (.file root.normalize) = .ok text)
    (hsupply : Loading.supply ⟨{}, []⟩ limits permissive ⟨.file root.normalize, none⟩ (.ok text) =
      .ok next)
    (hpending : next.pending = []) :
    load tree [root] limits permissive = .ok next.set := by
  have hbegin : Loading.settle (Loading.begin [root]).set (Loading.begin [root]).pending =
      ⟨{}, [⟨.file root.normalize, none⟩]⟩ := by
    simp [Loading.begin, Loading.settle, Loading.known?, SchemaSet.withPath?]
  rw [load, Loading.run_of_supply hbegin hread hsupply, Loading.run_of_settled hpending]

theorem Generation.load_single {options : Options} {text : String} {next : Loading}
    (hvalid : options.validate = .ok ()) (hdirectory : options.inputDirectory = ⟨"."⟩)
    (hroots : options.roots = [⟨"a.xsd"⟩])
    (hsupply : Loading.supply ⟨{}, []⟩ options.limits options.permissive
      ⟨.file ⟨"a.xsd"⟩, none⟩ (.ok text) = .ok next)
    (hpending : next.pending = []) :
    load ⟨[(⟨.above 0, ["a.xsd"]⟩, .file (.text text))]⟩ options = .ok next.set := by
  have hpaths : options.rootPaths ⟨[(⟨.above 0, ["a.xsd"]⟩, .file (.text text))]⟩ =
      .ok [⟨"./a.xsd"⟩] := by
    have hpath : Path.join ⟨"."⟩ ⟨"a.xsd"⟩ = ⟨"./a.xsd"⟩ := by decide +kernel
    simp [Options.rootPaths, Options.rootsFrom, hroots, hdirectory, hpath]
  rw [load, hvalid, hpaths]
  exact SchemaSet.load_of_supply (Location.readFrom_single text) hsupply hpending

theorem Generation.exists_run_of_types {tree : FileTree} {options : Options} {set : SchemaSet}
    {ids : List TypeId} (hload : load tree options = .ok set)
    (hseeds : Emission.seeds set options = ids.map .type)
    (hfiles : ∀ id ∈ ids, (∃ type made, set.typeDef id = .ok type ∧
      Works.structFile set options set.answers id type = .ok made) ∧ set.successors id = []) :
    ∃ report files, run tree options Sink.memory [] = .ok report files := by
  have hwritable : Emission.Writable set options (· ∈ ids) := by
    constructor
    · intro id hid
      exact (hfiles id hid).1
    · intro id other hid hother
      rw [SchemaSet.Refers, (hfiles id hid).2] at hother
      cases hother
  have hstarts : ∀ seed ∈ Emission.seeds set options, seed.Starts set (· ∈ ids) := by
    intro seed hseed
    rw [hseeds] at hseed
    obtain ⟨id, hid, rfl⟩ := List.mem_map.mp hseed
    exact hid
  have hsink : Sink.memory.Accepts := fun _ _ _ _ => ⟨_, rfl⟩
  have hroots : ∃ emission,
      Emission.emitRoots set options Sink.memory { works := { sink := [] } } = .ok () emission :=
    Emission.exists_emitSeeds hsink hwritable hstarts (Memo.settled_empty set)
  obtain ⟨emission, hemission⟩ := hroots
  exact ⟨_, _, run_eq_ok_iff.mpr ⟨set, emission, hload, hemission, rfl, rfl⟩⟩

/-- A run that starts at the one type, which refers to no other, writes its struct. -/
theorem Generation.run_of_type {σ : Type} {tree : FileTree} {options : Options} {set : SchemaSet}
    {sink : Sink σ} {before : σ} {id : TypeId} {type : TypeDef} {works : Works σ}
    (hload : load tree options = .ok set) (hseeds : Emission.seeds set options = [.type id])
    (htype : set.typeDef id = .ok type)
    (hwrite : Works.writeStruct set options sink id type { sink := before } = .ok [] works) :
    run tree options sink before = .ok ⟨works.structs, set.size⟩ works.sink := by
  have hwalk : Emission.walk set options sink [] { sink := before } [id] =
      .ok () ⟨Table.put [] (type.structKey options) id, works⟩ := by
    rw [Emission.walk_new htype List.not_mem_nil, hwrite]
    exact Emission.walk.eq_1 ..
  have hroots : Emission.emitRoots set options sink { works := { sink := before } } =
      .ok () ⟨Table.put [] (type.structKey options) id, works⟩ := by
    simp only [Emission.emitRoots, hseeds, Emission.emitSeeds, Emission.emitSeed, Emission.emit,
      run_bind_eq_ok_iff]
    exact ⟨(), _, hwalk, rfl⟩
  exact run_eq_ok_iff.mpr ⟨set, _, hload, hroots, rfl, rfl⟩

/-! Two types whose names differ in case only. -/

namespace Cased

open Emission

def text : String :=
  "<schema xmlns=\"http://www.w3.org/2001/XMLSchema\" targetNamespace=\"urn:order\">" ++
    "<complexType name=\"Order\"><sequence/></complexType>" ++
    "<complexType name=\"ORDER\"><sequence/></complexType></schema>"

def tree : FileTree :=
  ⟨[(⟨.above 0, ["a.xsd"]⟩, .file (.text text))]⟩

def options : Options := { roots := [⟨"a.xsd"⟩], recursive := true, limits := .strict }

def request : Request := ⟨.file ⟨"a.xsd"⟩, none⟩

def loaded : Except Error Loading :=
  Loading.supply ⟨{}, []⟩ options.limits options.permissive request (.ok text)

def hasFile (set : SchemaSet) (id : TypeId) : Bool :=
  match set.typeDef id with
  | .ok type => (Works.structFile set options set.answers id type).toBool
  | .error _ => false

theorem exists_loaded : ∃ next, loaded = .ok next ∧ next.pending = [] ∧
    seeds next.set options = [.type ⟨0⟩, .type ⟨1⟩] ∧
    ∀ id ∈ ([⟨0⟩, ⟨1⟩] : List TypeId),
      hasFile next.set id = true ∧ next.set.successors id = [] := by
  exact exists_ok_of_map (by decide +kernel)

theorem load_eq {next : Loading} (hloaded : loaded = .ok next) (hpending : next.pending = []) :
    Generation.load tree options = .ok next.set :=
  Generation.load_single (by decide +kernel) rfl rfl hloaded hpending

theorem exists_file {set : SchemaSet} {id : TypeId} (h : hasFile set id = true) :
    ∃ type made, set.typeDef id = .ok type ∧
      Works.structFile set options set.answers id type = .ok made := by
  unfold hasFile at h
  cases htype : set.typeDef id with
  | error error =>
      rw [htype] at h
      cases h
  | ok type =>
      simp only [htype] at h
      cases hfile : Works.structFile set options set.answers id type with
      | error error =>
          rw [hfile] at h
          cases h
      | ok made => exact ⟨type, made, rfl, hfile⟩

theorem exists_run :
    ∃ report files, Generation.run tree options Sink.memory [] = .ok report files := by
  obtain ⟨next, hloaded, hpending, hseeds, hknown⟩ := exists_loaded
  have hstarts : seeds next.set options = ([⟨0⟩, ⟨1⟩] : List TypeId).map .type := hseeds
  apply Generation.exists_run_of_types (load_eq hloaded hpending) hstarts
  intro id hid
  exact ⟨exists_file (hknown id hid).1, (hknown id hid).2⟩

end Cased

theorem Generation.exact_report_cased :
    ∃ report files, run Cased.tree Cased.options Sink.memory [] = .ok report files ∧
      ∃ taken, run Cased.tree Cased.options Sink.memory.recorded ([], []) =
          .ok report (files, taken) ∧ report.Fits taken files := by
  obtain ⟨report, files, hrun⟩ := Cased.exists_run
  exact ⟨report, files, hrun, exact_report.2 Cased.tree Cased.options report files hrun⟩

end SchemaBinding
