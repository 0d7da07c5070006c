import SchemaBinding.Proofs.Emission.Recording
import Mathlib.Data.List.Induction

namespace SchemaBinding

open Sink (GeneratedFile)

namespace Sink

variable {σ : Type} {sink : Sink σ}

def takeAll (sink : Sink σ) : List GeneratedFile → EStateM Error σ Unit
  | [] => return
  | file :: rest => do
      sink.write file.package file.file file.contents
      takeAll sink rest

def Takes (sink : Sink σ) (state : σ) (file : GeneratedFile) : Prop :=
  ∃ after, sink.write file.package file.file file.contents state = .ok () after

/-- Whether the sink takes one of these files does not depend on those that it took before. -/
def Steady (sink : Sink σ) (among : GeneratedFile → Prop) (start : σ) : Prop :=
  ∀ files state, (∀ file ∈ files, among file) → sink.takeAll files start = .ok () state →
    ∀ file, among file → (sink.Takes state file ↔ sink.Takes start file)

theorem takeAll_append_eq_ok_iff {first second : List GeneratedFile} {before after : σ} :
    sink.takeAll (first ++ second) before = .ok () after ↔
      ∃ between, sink.takeAll first before = .ok () between ∧
        sink.takeAll second between = .ok () after := by
  induction first generalizing before with
  | nil =>
      constructor
      · intro h
        exact ⟨before, rfl, h⟩
      · rintro ⟨_, hfirst, hsecond⟩
        cases hfirst
        exact hsecond
  | cons file rest ih =>
      simp only [List.cons_append, takeAll, run_bind_eq_ok_iff, ih]
      constructor
      · rintro ⟨value, middle, hwrite, between, hrest, hsecond⟩
        exact ⟨between, ⟨value, middle, hwrite, hrest⟩, hsecond⟩
      · rintro ⟨between, ⟨value, middle, hwrite, hrest⟩, hsecond⟩
        exact ⟨value, middle, hwrite, between, hrest, hsecond⟩

theorem takeAll_singleton_eq_ok_iff {file : GeneratedFile} {before after : σ} :
    sink.takeAll [file] before = .ok () after ↔
      sink.write file.package file.file file.contents before = .ok () after := by
  simp only [takeAll, run_bind_eq_ok_iff]
  constructor
  · rintro ⟨_, _, hwrite, hdone⟩
    cases hdone
    exact hwrite
  · intro hwrite
    exact ⟨(), after, hwrite, rfl⟩

/-- A steady sink takes files one after another if it takes each of them at first. -/
theorem Steady.exists_takeAll_iff {among : GeneratedFile → Prop} {start : σ}
    (h : sink.Steady among start) {files : List GeneratedFile}
    (hfiles : ∀ file ∈ files, among file) :
    (∃ state, sink.takeAll files start = .ok () state) ↔
      ∀ file ∈ files, sink.Takes start file := by
  induction files using List.reverseRecOn with
  | nil => exact ⟨fun _ _ hfile => absurd hfile List.not_mem_nil, fun _ => ⟨start, rfl⟩⟩
  | append_singleton files last ih =>
      have hbefore : ∀ file ∈ files, among file :=
        fun file hfile => hfiles file (List.mem_append_left _ hfile)
      have hlast : among last := hfiles last List.mem_concat_self
      simp only [takeAll_append_eq_ok_iff, takeAll_singleton_eq_ok_iff]
      constructor
      · rintro ⟨state, between, htaken, hwrite⟩ file hfile
        rcases List.mem_append.mp hfile with hmem | hmem
        · exact (ih hbefore).mp ⟨between, htaken⟩ file hmem
        · rw [List.mem_singleton.mp hmem]
          exact (h files between hbefore htaken last hlast).mp ⟨state, hwrite⟩
      · intro htakes
        obtain ⟨between, htaken⟩ :=
          (ih hbefore).mpr fun file hfile => htakes file (List.mem_append_left _ hfile)
        obtain ⟨state, hwrite⟩ :=
          (h files between hbefore htaken last hlast).mpr (htakes last List.mem_concat_self)
        exact ⟨state, between, htaken, hwrite⟩

theorem Accepts.steady (h : sink.Accepts) (among : GeneratedFile → Prop) (start : σ) :
    sink.Steady among start := by
  intro _ state _ _ file _
  exact ⟨fun _ => h _ _ _ start, fun _ => h _ _ _ state⟩

theorem write_recorded_eq_ok_iff {package file contents : String} {value : Unit}
    {before after : σ × List GeneratedFile} :
    sink.recorded.write package file contents before = .ok value after ↔
      sink.write package file contents before.1 = .ok value after.1 ∧
        after.2 = before.2 ++ [⟨package, file, contents⟩] := by
  obtain ⟨state, taken⟩ := before
  obtain ⟨state', taken'⟩ := after
  simp only [recorded]
  cases sink.write package file contents state with
  | ok _ next => simp [eq_comm]
  | error => simp

theorem Accepts.recorded (h : sink.Accepts) : sink.recorded.Accepts := by
  rintro package file contents ⟨before, files⟩
  obtain ⟨after, hwrite⟩ := h package file contents before
  exact ⟨(after, files ++ [⟨package, file, contents⟩]),
    write_recorded_eq_ok_iff.mpr ⟨hwrite, rfl⟩⟩

theorem takeAll_recorded_eq_ok_iff {files : List GeneratedFile}
    {before after : σ × List GeneratedFile} :
    sink.recorded.takeAll files before = .ok () after ↔
      sink.takeAll files before.1 = .ok () after.1 ∧ after.2 = before.2 ++ files := by
  induction files generalizing before with
  | nil =>
      obtain ⟨state, taken⟩ := before
      obtain ⟨state', taken'⟩ := after
      simp [takeAll, pure, EStateM.pure, eq_comm]
  | cons file rest ih =>
      simp only [takeAll, run_bind_eq_ok_iff, ih, write_recorded_eq_ok_iff]
      constructor
      · rintro ⟨_, between, ⟨hwrite, hnoted⟩, hrest, htaken⟩
        refine ⟨⟨(), between.1, hwrite, hrest⟩, ?_⟩
        rw [htaken, hnoted, List.append_assoc, List.singleton_append]
      · rintro ⟨⟨_, between, hwrite, hrest⟩, htaken⟩
        refine ⟨(), (between, before.2 ++ [file]), ⟨hwrite, rfl⟩, hrest, ?_⟩
        rw [htaken, List.append_assoc, List.singleton_append]

end Sink

def Delivery.written (delivery : Delivery) : GeneratedFile :=
  ⟨delivery.file.package, delivery.fileName, delivery.file.text⟩

theorem Sink.deliver_eq {σ : Type} (sink : Sink σ) (deliveries : List Delivery) :
    sink.deliver deliveries = sink.takeAll (deliveries.map Delivery.written) := by
  induction deliveries with
  | nil => rfl
  | cons delivery rest ih => rw [deliver, ih, List.map_cons, takeAll, Delivery.written]

/-! Work on a sink that notes what it takes, done again on another sink. -/

section

variable {σ τ α β S T : Type}

/-- What the one work did, the other does as well if its sink takes the files that were noted. -/
def Replays (noted : S → List GeneratedFile) (place : τ → S → T) (sink : Sink τ) (start : τ)
    (work : EStateM Error S α) (other : EStateM Error T α) : Prop :=
  ∀ before value after, work before = .ok value after →
    ∀ last, sink.takeAll (noted after) start = .ok () last →
      ∃ first, sink.takeAll (noted before) start = .ok () first ∧
        other (place first before) = .ok value (place last after)

variable {noted : S → List GeneratedFile} {place : τ → S → T} {sink : Sink τ} {start : τ}

theorem Replays.bind {work : EStateM Error S α} {other : EStateM Error T α}
    {next : α → EStateM Error S β} {otherNext : α → EStateM Error T β}
    (hwork : Replays noted place sink start work other)
    (hnext : ∀ value, Replays noted place sink start (next value) (otherNext value)) :
    Replays noted place sink start (work >>= next) (other >>= otherNext) := by
  intro before value after h last hlast
  obtain ⟨found, between, hfound, hrest⟩ := run_bind_eq_ok_iff.mp h
  obtain ⟨middle, hmiddle, hother⟩ := hnext found between value after hrest last hlast
  obtain ⟨first, hfirst, hbefore⟩ := hwork before found between hfound middle hmiddle
  exact ⟨first, hfirst, run_bind_eq_ok_iff.mpr ⟨found, _, hbefore, hother⟩⟩

theorem replays_of_actsAs {work : EStateM Error S α} {other : EStateM Error T α}
    (hacts : ∀ state, ActsAs (place state) work other)
    (hnoted : ∀ before value after, work before = .ok value after → noted after = noted before) :
    Replays noted place sink start work other := by
  intro before value after h last hlast
  rw [hnoted before value after h] at hlast
  refine ⟨last, hlast, ?_⟩
  rw [← hacts last before, h]
  rfl

end

variable {σ τ : Type} {taker : Sink σ} {sink : Sink τ} {start : τ} {set : SchemaSet}
  {options : Options}

namespace Works

def notes (works : Works (σ × List GeneratedFile)) : List GeneratedFile :=
  works.sink.2

def withSink (state : τ) (works : Works σ) : Works τ :=
  works.mapSink fun _ => state

theorem resolving_replays {α : Type} (work : Resolving α) :
    Replays (notes (σ := σ)) withSink sink start (resolving work) (resolving work) := by
  apply replays_of_actsAs
  · exact fun _ => resolving_actsAs work
  · intro before value after h
    unfold resolving at h
    split at h
    · cases h
      rfl
    · cases h

theorem writing_replays (file : GeneratedFile) :
    Replays notes withSink sink start
      (writing (taker.recorded.write file.package file.file file.contents))
      (writing (sink.write file.package file.file file.contents)) := by
  intro before value after h last hlast
  obtain ⟨state, hwrite, rfl⟩ := writing_eq_ok_iff.mp h
  obtain ⟨_, hnoted⟩ := Sink.write_recorded_eq_ok_iff.mp hwrite
  change sink.takeAll state.2 start = .ok () last at hlast
  rw [hnoted] at hlast
  obtain ⟨first, hfirst, hlast⟩ := Sink.takeAll_append_eq_ok_iff.mp hlast
  have hother := Sink.takeAll_singleton_eq_ok_iff.mp hlast
  exact ⟨first, hfirst, writing_eq_ok_iff.mpr ⟨last, hother, rfl⟩⟩

theorem writeStruct_replays (id : TypeId) (type : TypeDef) :
    Replays notes withSink sink start (writeStruct set options taker.recorded id type)
      (writeStruct set options sink id type) := by
  apply (resolving_replays _).bind
  rintro ⟨file, referenced⟩
  apply Replays.bind
  · apply replays_of_actsAs
    · exact fun _ _ => rfl
    · intro before value after h
      cases h
      rfl
  · intro fileName
    apply (writing_replays ⟨file.package, fileName, file.text⟩).bind
    intro _
    apply replays_of_actsAs
    · exact fun _ _ => rfl
    · intro before value after h
      cases h
      rfl

end Works

namespace Emission

def notes (emission : Emission (σ × List GeneratedFile)) : List GeneratedFile :=
  emission.works.notes

def withSink (state : τ) (emission : Emission σ) : Emission τ :=
  emission.mapSink fun _ => state

theorem walk_replays {claims : Claims} {works : Works (σ × List GeneratedFile)}
    {stack : List TypeId} {after : Emission (σ × List GeneratedFile)}
    (h : walk set options taker.recorded claims works stack = .ok () after) {last : τ}
    (hlast : sink.takeAll after.notes start = .ok () last) :
    ∃ first, sink.takeAll works.notes start = .ok () first ∧
      walk set options sink claims (works.withSink first) stack = .ok () (after.withSink last) := by
  fun_induction walk set options taker.recorded claims works stack with
  | case1 claims works =>
      cases h
      refine ⟨last, hlast, ?_⟩
      rw [walk]
      rfl
  | case2 => cases h
  | case3 claims works id rest type htype owner hclaim ih =>
      obtain ⟨first, hfirst, hwalk⟩ := ih h
      refine ⟨first, hfirst, ?_⟩
      rw [walk_claimed (typeDef_of_type? htype) (Table.mem_keys_of_get? hclaim)]
      exact hwalk
  | case4 => cases h
  | case5 claims works id rest type htype hclaim claimed referenced written hwrite _ ih =>
      obtain ⟨middle, hmiddle, hwalk⟩ := ih h
      obtain ⟨first, hfirst, hstruct⟩ :=
        Works.writeStruct_replays id type works referenced written hwrite middle hmiddle
      refine ⟨first, hfirst, ?_⟩
      rw [walk_new (typeDef_of_type? htype) (Table.get?_eq_none_iff.mp hclaim), hstruct]
      exact hwalk

theorem emit_replays (id : TypeId) :
    Replays notes withSink sink start (emit set options taker.recorded id)
      (emit set options sink id) :=
  fun _ _ _ h _ hlast => walk_replays h hlast

theorem elementType_replays (id : ElementId) :
    Replays (notes (σ := σ)) withSink sink start (elementType set id) (elementType set id) := by
  apply replays_of_actsAs
  · exact fun _ => elementType_actsAs id
  · intro before value after h
    unfold elementType Works.resolving at h
    cases hwork : Resolving.elementType set id before.works.memo with
    | ok value memo =>
        rw [hwork] at h
        cases h
        rfl
    | error error memo =>
        rw [hwork] at h
        cases h

theorem emitSeed_replays (seed : Seed) :
    Replays notes withSink sink start (emitSeed set options taker.recorded seed)
      (emitSeed set options sink seed) := by
  cases seed with
  | type id => exact emit_replays id
  | element id =>
      apply (elementType_replays id).bind
      intro target
      cases target with
      | builtin type => exact replays_of_actsAs (fun _ _ => rfl) (by rintro _ _ _ ⟨⟩; rfl)
      | simple id => exact replays_of_actsAs (fun _ _ => rfl) (by rintro _ _ _ ⟨⟩; rfl)
      | complex id => exact emit_replays id

theorem emitSeeds_replays (seeds : List Seed) :
    Replays notes withSink sink start (emitSeeds set options taker.recorded seeds)
      (emitSeeds set options sink seeds) := by
  induction seeds with
  | nil => exact replays_of_actsAs (fun _ _ => rfl) (by rintro _ _ _ ⟨⟩; rfl)
  | cons seed rest ih => exact (emitSeed_replays seed).bind fun _ => ih

theorem emitRoots_of_takeAll {state : σ} {after : Emission (σ × List GeneratedFile)}
    (h : emitRoots set options taker.recorded { works := { sink := (state, []) } } = .ok () after)
    {last : τ} (htaken : sink.takeAll after.notes start = .ok () last) :
    emitRoots set options sink { works := { sink := start } } = .ok () (after.withSink last) := by
  obtain ⟨first, hfirst, hroots⟩ := emitSeeds_replays (seeds set options) _ _ _ h last htaken
  cases hfirst
  exact hroots

end Emission

end SchemaBinding
