import SchemaBinding.Proofs.Emission.Reach
import SchemaBinding.Proofs.Emission.Replay
import SchemaBinding.Proofs.Report

namespace SchemaBinding

open Relation (ReflTransGen)
open Sink (GeneratedFile)

variable {σ : Type}

namespace EmittedStruct

def place (entry : EmittedStruct) : String × String :=
  (entry.package, entry.file)

def preferred (entry : EmittedStruct) : String × String :=
  (entry.package, Identifier.fileName entry.name)

end EmittedStruct

/-- Each struct got the first name that those before it had left. -/
inductive Placed : List EmittedStruct → Prop
  | nil : Placed []
  | concat {earlier : List EmittedStruct} {entry : EmittedStruct} : Placed earlier →
      entry.file = Works.freeFile (earlier.map EmittedStruct.place).reverse entry.package
        entry.name → Placed (earlier ++ [entry])

theorem Placed.file_eq {structs : List EmittedStruct} (h : Placed structs)
    (hnodup : (structs.map EmittedStruct.preferred).Nodup) :
    ∀ entry ∈ structs, entry.file = Identifier.fileName entry.name := by
  induction h with
  | nil => simp
  | @concat earlier entry _ hfile ih =>
      rw [List.map_append] at hnodup
      have hbefore := ih (hnodup.sublist (List.sublist_append_left _ _))
      have hplaces : earlier.map EmittedStruct.place = earlier.map EmittedStruct.preferred := by
        apply List.map_congr_left
        intro other hother
        rw [EmittedStruct.place, hbefore other hother, EmittedStruct.preferred]
      have hfree : entry.preferred ∉ (earlier.map EmittedStruct.place).reverse := by
        rw [List.mem_reverse, hplaces]
        intro hmem
        exact (List.nodup_append.mp hnodup).2.2 _ hmem _ List.mem_cons_self rfl
      intro other hother
      rcases List.mem_append.mp hother with hmem | hmem
      · exact hbefore other hmem
      · rw [List.mem_singleton.mp hmem, hfile]
        exact Works.freeFile_of_notMem hfree

structure Works.Filed (works : Works σ) : Prop where
  files : works.files = (works.structs.map EmittedStruct.place).reverse
  placed : Placed works.structs

namespace Emission

variable {set : SchemaSet} {options : Options} {sink : Sink σ}

theorem filed_writeStruct {id : TypeId} {type : TypeDef} {before after : Works σ}
    {referenced : List TypeId} (hfiled : before.Filed) (hsettled : before.memo.Settled set)
    (h : Works.writeStruct set options sink id type before = .ok referenced after) :
    after.Filed := by
  obtain ⟨memo, _, hcases⟩ := Works.writeStruct_cases options sink id type hsettled
  rcases hcases with ⟨error, heq⟩ | ⟨file, _, _, fileName, hfileName, hwrite⟩
  · rw [heq] at h
    cases h
  · rcases hwrite with ⟨error, state, _, heq⟩ | ⟨found, state, _, heq⟩
    · rw [heq] at h
      cases h
    · rw [heq] at h
      cases h
      rw [hfiled.files] at hfileName
      refine ⟨?_, .concat hfiled.placed hfileName⟩
      simp only [hfiled.files, List.map_append, List.map_cons, List.map_nil, List.reverse_append,
        List.reverse_cons, List.reverse_nil, List.nil_append, List.singleton_append]
      rfl

theorem filed_walk {claims : Claims} {works : Works σ} {stack : List TypeId} {after : Emission σ}
    (hfiled : works.Filed) (hsettled : works.memo.Settled set)
    (h : walk set options sink claims works stack = .ok () after) : after.works.Filed := by
  fun_induction walk set options sink claims works stack with
  | case1 =>
      cases h
      exact hfiled
  | case2 => cases h
  | case3 claims works id rest type htype owner hclaim ih => exact ih hfiled hsettled h
  | case4 => cases h
  | case5 claims works id rest type htype hclaim claimed referenced written hwrite _ ih =>
      have hwritten := Works.settled_writeStruct options sink id type hsettled
      rw [hwrite] at hwritten
      exact ih (filed_writeStruct hfiled hsettled hwrite) hwritten h

theorem filed_emitSeed {seed : Seed} {before after : Emission σ} (hfiled : before.works.Filed)
    (hsettled : before.works.memo.Settled set)
    (h : emitSeed set options sink seed before = .ok () after) : after.works.Filed := by
  obtain ⟨memo, hmemo, heq⟩ := emitSeed_eq options sink hsettled (known_of_emitSeed hsettled h)
  rw [heq] at h
  have hlooked : Works.Filed { before.works with memo := memo } := ⟨hfiled.files, hfiled.placed⟩
  exact filed_walk hlooked hmemo h

theorem filed_emitSeeds {seeds : List Seed} {before after : Emission σ}
    (hfiled : before.works.Filed) (hsettled : before.works.memo.Settled set)
    (h : emitSeeds set options sink seeds before = .ok () after) :
    after.works.Filed ∧ ∀ seed ∈ seeds, seed.Known set := by
  induction seeds generalizing before with
  | nil =>
      cases h
      exact ⟨hfiled, by simp⟩
  | cons seed rest ih =>
      simp only [emitSeeds, run_bind_eq_ok_iff] at h
      obtain ⟨_, between, hseed, hrest⟩ := h
      have hbetween := (lasting_settled options sink).emitSeed seed hsettled
      rw [hseed] at hbetween
      obtain ⟨hafter, hknown⟩ := ih (filed_emitSeed hfiled hsettled hseed) hbetween hrest
      refine ⟨hafter, ?_⟩
      intro other hother
      rcases List.mem_cons.mp hother with rfl | hmem
      · exact known_of_emitSeed hsettled hseed
      · exact hknown other hmem

/-! Files that are preferred. -/

/-- The file that a type becomes, under the name that it prefers. -/
def Becomes (set : SchemaSet) (options : Options) (id : TypeId) (file : GeneratedFile) : Prop :=
  ∃ type made, set.typeDef id = .ok type ∧
    Works.structFile set options set.answers id type = .ok made ∧
      file = ⟨made.1.package, Identifier.fileName made.1.name, made.1.text⟩

/-- Two types have one package, and there one struct name or one preferred file. -/
def Collide (options : Options) (type other : TypeDef) : Prop :=
  type.structKey options = other.structKey options ∨
    (type.package options, Identifier.fileName type.structName) =
      (other.package options, Identifier.fileName other.structName)

theorem Collide.symm {type other : TypeDef} (h : Collide options type other) :
    Collide options other type :=
  h.imp Eq.symm Eq.symm

theorem not_collide {type other : TypeDef} (hname : type.structName ≠ other.structName)
    (hfile : Identifier.fileName type.structName ≠ Identifier.fileName other.structName) :
    ¬ Collide options type other := by
  rintro (hkey | hkey)
  · exact hname (congrArg Prod.snd hkey)
  · exact hfile (congrArg Prod.snd hkey)

/-- No two types that are reached collide. -/
def Apart (set : SchemaSet) (options : Options) : Prop :=
  ∀ id other type type', IsReached set options id → IsReached set options other →
    set.typeDef id = .ok type → set.typeDef other = .ok type' → Collide options type type' →
      id = other

theorem Apart.distinct (h : Apart set options) : Distinct set options :=
  fun id other type type' hid hother htype htype' hkey =>
    h id other type type' hid hother htype htype' (.inl hkey)

/-- What can be written of a set: every seed is known, and what is reached has a file. -/
structure Succeeds (set : SchemaSet) (options : Options) : Prop where
  known : ∀ seed ∈ seeds set options, seed.Known set
  becomes : ∀ id, IsReached set options id → ∃ file, Becomes set options id file

def Writes (set : SchemaSet) (options : Options) (file : GeneratedFile) : Prop :=
  ∃ id, IsReached set options id ∧ Becomes set options id file

theorem becomes_of_fits {delivery : Delivery} (h : delivery.Fits set options) :
    Becomes set options delivery.id ⟨delivery.file.package,
      Identifier.fileName delivery.file.name, delivery.file.text⟩ := by
  obtain ⟨type, htype, _, hfile⟩ := h
  exact ⟨type, _, htype, hfile, rfl⟩

theorem Becomes.unique {id : TypeId} {file other : GeneratedFile}
    (h : Becomes set options id file) (h' : Becomes set options id other) : file = other := by
  obtain ⟨type, made, htype, hmade, rfl⟩ := h
  obtain ⟨type', made', htype', hmade', rfl⟩ := h'
  rw [htype] at htype'
  cases htype'
  rw [hmade] at hmade'
  cases hmade'
  rfl

theorem nodup_preferred {deliveries : List Delivery}
    (hfits : ∀ delivery ∈ deliveries, delivery.Fits set options)
    (hreached : ∀ delivery ∈ deliveries, IsReached set options delivery.id)
    (hapart : Apart set options) (h : (deliveries.map Delivery.id).Nodup) :
    ((deliveries.map Delivery.entry).map EmittedStruct.preferred).Nodup := by
  rw [List.map_map]
  rw [List.Nodup, List.pairwise_map] at h ⊢
  apply h.imp_of_mem
  intro first second hfirst hsecond hne heq
  obtain ⟨type, htype, hkey⟩ := key_eq_of_fits (hfits first hfirst)
  obtain ⟨other, hother, hkey'⟩ := key_eq_of_fits (hfits second hsecond)
  obtain ⟨hpackage, hname⟩ := Prod.mk.inj hkey
  obtain ⟨hpackage', hname'⟩ := Prod.mk.inj hkey'
  apply hne
  apply hapart _ _ type other (hreached first hfirst) (hreached second hsecond) htype hother
  right
  rw [← hpackage, ← hname, ← hpackage', ← hname']
  exact heq

/-- A run that succeeds hands over the files of what is reached, under the names they prefer. -/
theorem mem_files_iff {start : σ} {after : Emission (σ × List GeneratedFile)}
    (hapart : Apart set options)
    (h : emitRoots set options sink.recorded { works := { sink := (start, []) } } =
      .ok () after) (file : GeneratedFile) :
    file ∈ after.works.sink.2 ↔ Writes set options file := by
  have hnone : Memo.Settled set {} := Memo.settled_empty set
  obtain ⟨deliveries, hran⟩ := ran_emitSeeds hnone h
  have hfits := hran.delivered.fits
  have hmem : ∀ id, id ∈ deliveries.map Delivery.id ↔ IsReached set options id :=
    fun id => mem_delivered_iff hran rfl hapart.distinct
  have hkeys := hran.nodup List.Pairwise.nil
  rw [hran.keys] at hkeys
  -- no two of the types prefer one file, so every struct got the name that it prefers
  have hpreferred := nodup_preferred hfits
    (fun delivery hdelivery => (hmem _).mp (List.mem_map_of_mem hdelivery)) hapart
    (nodup_ids hfits hkeys)
  have hplaced := (filed_emitSeeds ⟨rfl, .nil⟩ hnone h).1.placed
  have hstructs : after.works.structs = deliveries.map Delivery.entry := hran.delivered.structs
  rw [hstructs] at hplaced
  have hnames : ∀ delivery ∈ deliveries,
      delivery.fileName = Identifier.fileName delivery.file.name := fun delivery hdelivery =>
    hplaced.file_eq hpreferred delivery.entry (List.mem_map_of_mem hdelivery)
  have hfiles : after.works.sink.2 = deliveries.map Delivery.written := by
    rw [(Sink.takeAll_recorded_eq_ok_iff.mp (sink.recorded.deliver_eq _ ▸ hran.delivered.sink)).2]
    rfl
  rw [hfiles, List.mem_map]
  constructor
  · rintro ⟨delivery, hdelivery, rfl⟩
    refine ⟨delivery.id, (hmem _).mp (List.mem_map_of_mem hdelivery), ?_⟩
    rw [Delivery.written, hnames delivery hdelivery]
    exact becomes_of_fits (hfits delivery hdelivery)
  · rintro ⟨id, hreached, hbecomes⟩
    obtain ⟨delivery, hdelivery, rfl⟩ := List.mem_map.mp ((hmem id).mpr hreached)
    refine ⟨delivery, hdelivery, ?_⟩
    rw [Delivery.written, hnames delivery hdelivery]
    exact (becomes_of_fits (hfits delivery hdelivery)).unique hbecomes

theorem isReached_of_seed {seed : Seed} (hseed : seed ∈ seeds set options) {id : TypeId}
    (htype : seed.type? set = some id) : IsReached set options id :=
  ⟨id, mem_seeds_iff.mp (List.mem_filterMap.mpr ⟨seed, hseed, htype⟩), .refl⟩

theorem Succeeds.writable (h : Succeeds set options) :
    Writable set options (IsReached set options) where
  made id hid := by
    obtain ⟨_, type, made, htype, hmade, _⟩ := h.becomes id hid
    exact ⟨type, made, htype, hmade⟩
  closed id next hid hnext := by
    obtain ⟨start, hstart, hreach⟩ := hid
    exact ⟨start, hstart, hreach.tail hnext⟩

theorem Succeeds.starts (h : Succeeds set options) {seed : Seed}
    (hseed : seed ∈ seeds set options) : seed.Starts set (IsReached set options) := by
  cases seed with
  | type id => exact isReached_of_seed hseed rfl
  | element id =>
      obtain ⟨target, htarget⟩ := h.known _ hseed
      refine ⟨target, htarget, ?_⟩
      intro next hnext
      apply isReached_of_seed hseed
      simp only [Seed.type?, htarget]
      exact hnext

theorem succeeds_of_emitRoots (hdistinct : Distinct set options) {start : σ} {after : Emission σ}
    (h : emitRoots set options sink { works := { sink := start } } = .ok () after) :
    Succeeds set options := by
  have hnone : Memo.Settled set {} := Memo.settled_empty set
  obtain ⟨deliveries, hran⟩ := ran_emitSeeds hnone h
  refine ⟨(filed_emitSeeds ⟨rfl, .nil⟩ hnone h).2, ?_⟩
  intro id hid
  obtain ⟨delivery, hdelivery, rfl⟩ :=
    List.mem_map.mp ((mem_delivered_iff hran rfl hdistinct).mpr hid)
  exact ⟨_, becomes_of_fits (hran.delivered.fits delivery hdelivery)⟩

theorem takeAll_of_emitRoots {start : σ} {after : Emission (σ × List GeneratedFile)}
    (h : emitRoots set options sink.recorded { works := { sink := (start, []) } } =
      .ok () after) : sink.takeAll after.notes start = .ok () after.works.sink.1 := by
  obtain ⟨deliveries, hran⟩ := ran_emitSeeds (Memo.settled_empty set) h
  have htaken := hran.delivered.sink
  rw [Sink.deliver_eq, Sink.takeAll_recorded_eq_ok_iff] at htaken
  have hnotes : after.notes = deliveries.map Delivery.written := htaken.2
  rw [hnotes]
  exact htaken.1

/-- A run succeeds exactly when all that it reaches can be written, and its sink takes it. -/
theorem exists_emitRoots_iff (hapart : Apart set options) {start : σ}
    (hsink : sink.Steady (Writes set options) start) :
    (∃ after, emitRoots set options sink.recorded { works := { sink := (start, []) } } =
      .ok () after) ↔
        Succeeds set options ∧ ∀ file, Writes set options file → sink.Takes start file := by
  constructor
  · rintro ⟨after, h⟩
    have hmem := mem_files_iff hapart h
    have htakes := (hsink.exists_takeAll_iff fun file => (hmem file).mp).mp
      ⟨_, takeAll_of_emitRoots h⟩
    refine ⟨succeeds_of_emitRoots hapart.distinct h, ?_⟩
    intro file hfile
    exact htakes file ((hmem file).mpr hfile)
  · rintro ⟨hsucceeds, htakes⟩
    obtain ⟨after, h⟩ : ∃ after, emitRoots set options Sink.listing.recorded
        { works := { sink := ([], []) } } = .ok () after :=
      exists_emitSeeds Sink.accepts_listing.recorded hsucceeds.writable (fun _ => hsucceeds.starts)
        (Memo.settled_empty set)
    have hmem := mem_files_iff hapart h
    obtain ⟨last, htaken⟩ := (hsink.exists_takeAll_iff fun file => (hmem file).mp).mpr
      fun file hfile => htakes file ((hmem file).mp hfile)
    have hnoted : sink.recorded.takeAll after.notes (start, []) = .ok () (last, after.notes) :=
      Sink.takeAll_recorded_eq_ok_iff.mpr ⟨htaken, rfl⟩
    exact ⟨_, emitRoots_of_takeAll h hnoted⟩

end Emission

namespace Generation

variable {tree : FileTree} {options : Options} {sink : Sink σ} {set : SchemaSet} {start : σ}

theorem takeAll_of_run {report : Report} {after : σ} {files : List GeneratedFile}
    (hrun : run tree options sink.recorded (start, []) = .ok report (after, files)) :
    sink.takeAll files start = .ok () after := by
  obtain ⟨_, emission, _, hroots, _, hafter⟩ := run_eq_ok_iff.mp hrun
  have htaken := Emission.takeAll_of_emitRoots hroots
  rwa [Emission.notes, Works.notes, ← hafter] at htaken

variable (hload : load tree options = .ok set) (hapart : Emission.Apart set options)

include hload hapart

theorem exists_run_iff (hsink : sink.Steady (Emission.Writes set options) start) :
    (∃ report state, run tree options sink.recorded (start, []) = .ok report state) ↔
      Emission.Succeeds set options ∧
        ∀ file, Emission.Writes set options file → sink.Takes start file := by
  rw [← Emission.exists_emitRoots_iff hapart hsink]
  simp only [run_eq_ok_iff, hload, Except.ok.injEq]
  constructor
  · rintro ⟨_, _, _, after, rfl, hafter, _⟩
    exact ⟨after, hafter⟩
  · rintro ⟨after, hafter⟩
    exact ⟨_, _, set, after, rfl, hafter, rfl, rfl⟩

theorem succeeds_of_run {report : Report} {after : σ}
    (hrun : run tree options sink start = .ok report after) :
    Emission.Succeeds set options := by
  obtain ⟨found, emission, hfound, hroots, _⟩ := run_eq_ok_iff.mp hrun
  rw [hload] at hfound
  cases hfound
  exact Emission.succeeds_of_emitRoots hapart.distinct hroots

theorem mem_files_of_run {report : Report} {after : σ} {files : List GeneratedFile}
    (hrun : run tree options sink.recorded (start, []) = .ok report (after, files))
    (file : GeneratedFile) : file ∈ files ↔ Emission.Writes set options file := by
  obtain ⟨found, emission, hfound, hroots, _, hafter⟩ := run_eq_ok_iff.mp hrun
  rw [hload] at hfound
  cases hfound
  rw [← Emission.mem_files_iff hapart hroots, ← hafter]

end Generation

end SchemaBinding
