import SchemaBinding.Proofs.Emission.FreeFile
import SchemaBinding.Proofs.Emission.Recording

namespace SchemaBinding

open Sink (GeneratedFile)

variable {σ : Type}

/-- The file is the one of the listed struct. -/
def EmittedStruct.IsIn (entry : EmittedStruct) (taken : GeneratedFile) : Prop :=
  taken.package = entry.package ∧ taken.file = entry.file ∧
    ∃ file : StructFile, file.package = entry.package ∧ file.name = entry.name ∧
      taken.contents = file.text

/-- The structs are those of the files, in order; no two have one package and name, and no two
of a package have file names that differ in case at most. -/
structure Listing (taken : List GeneratedFile) (structs : List EmittedStruct) : Prop where
  matched : List.Forall₂ EmittedStruct.IsIn structs taken
  named : structs.Pairwise fun first second =>
    (first.package, first.name) ≠ (second.package, second.name)
  placed : structs.Pairwise fun first second =>
    first.package = second.package → first.file.toLower ≠ second.file.toLower

/-- What a sink's state says of the files it took, kept by every write. -/
structure Sink.Logs (sink : Sink σ) (Log : List GeneratedFile → σ → Prop) : Prop where
  taken : ∀ {files package file contents before after}, Log files before →
    sink.write package file contents before = .ok () after →
      Log (files ++ [⟨package, file, contents⟩]) after
  refused : ∀ {files package file contents before error after}, Log files before →
    sink.write package file contents before = .error error after → Log files after

theorem Sink.logs_recorded (sink : Sink σ) :
    sink.recorded.Logs fun files state => state.2 = files where
  taken := by
    rintro files package file contents ⟨before, noted⟩ ⟨after, more⟩ rfl hwrite
    simp only [recorded] at hwrite
    split at hwrite
    · cases hwrite
      rfl
    · cases hwrite
  refused := by
    rintro files package file contents ⟨before, noted⟩ error ⟨after, more⟩ rfl hwrite
    simp only [recorded] at hwrite
    split at hwrite
    · cases hwrite
    · cases hwrite
      rfl

namespace Works

variable {set : SchemaSet} {options : Options} {sink : Sink σ}

/-- How writing a struct can end: its file cannot be made, the sink refuses it, or the sink takes
it and it is listed. -/
theorem writeStruct_cases (options : Options) (sink : Sink σ) (id : TypeId) (type : TypeDef)
    {before : Works σ} (hsettled : before.memo.Settled set) :
    ∃ memo : Memo, memo.Settled set ∧
      ((∃ error, writeStruct set options sink id type before =
          .error error { before with memo := memo }) ∨
      ∃ file found, structFile set options set.answers id type = .ok (file, found) ∧
        ∃ fileName, fileName = freeFile before.files file.package file.name ∧
          ((∃ error state,
            sink.write file.package fileName file.text before.sink = .error error state ∧
            writeStruct set options sink id type before = .error error { before with
              memo := memo
              files := (file.package, fileName) :: before.files
              sink := state }) ∨
          ∃ referenced state,
            sink.write file.package fileName file.text before.sink = .ok () state ∧
            writeStruct set options sink id type before = .ok referenced {
              memo := memo
              files := (file.package, fileName) :: before.files
              sink := state
              structs := before.structs ++
                [⟨file.package, file.name, fileName, type.space⟩] })) := by
  obtain ⟨memo, hmemo, heq⟩ := resolving_eq (agrees_structFile set options id type) hsettled
  refine ⟨memo, hmemo, ?_⟩
  simp only [writeStruct, bind, EStateM.bind, heq]
  cases hfile : structFile set options set.answers id type with
  | error error => exact .inl ⟨error, rfl⟩
  | ok made =>
      refine .inr ⟨made.1, made.2, rfl, _, rfl, ?_⟩
      cases hwrite : sink.write made.1.package
          (freeFile before.files made.1.package made.1.name) made.1.text before.sink with
      | error error state =>
          refine .inl ⟨error, state, rfl, ?_⟩
          simp only [outcome, claimFile, modifyGet, MonadStateOf.modifyGet, EStateM.modifyGet,
            writing, hwrite]
      | ok _ state =>
          refine .inr ⟨made.2, state, rfl, ?_⟩
          simp only [outcome, claimFile, modifyGet, MonadStateOf.modifyGet, EStateM.modifyGet,
            writing, hwrite]
          rfl

end Works

namespace Emission

variable {set : SchemaSet} {options : Options} {sink : Sink σ}
  {Log : List GeneratedFile → σ → Prop}

/-- What holds of an emission whose sink took some files: the structs are those of the files, and
names and file names that are listed were taken, in the order of the list. -/
structure Kept (set : SchemaSet) (Log : List GeneratedFile → σ → Prop) (emission : Emission σ)
    (taken : List GeneratedFile) : Prop where
  settled : emission.works.memo.Settled set
  logged : Log taken emission.works.sink
  matched : List.Forall₂ EmittedStruct.IsIn emission.works.structs taken
  claimed : emission.claims.keys.Nodup
  named : List.Sublist (emission.works.structs.map fun entry => (entry.package, entry.name))
    emission.claims.keys
  files : emission.works.files.Nodup
  placed : List.Sublist (emission.works.structs.map fun entry => (entry.package, entry.file))
    emission.works.files.reverse
  small : ∀ entry ∈ emission.works.files, Identifier.IsFileText entry.2

theorem kept_start (Log : List GeneratedFile → σ → Prop) {state : σ} (h : Log [] state) :
    Kept set Log { works := { sink := state } } [] where
  settled := Memo.settled_empty set
  logged := h
  matched := .nil
  claimed := List.nodup_nil
  named := .slnil
  files := List.nodup_nil
  placed := .slnil
  small := by simp

theorem Kept.listing {emission : Emission σ} {taken : List GeneratedFile}
    (h : Kept set Log emission taken) : Listing taken emission.works.structs where
  matched := h.matched
  named := List.pairwise_map.mp (h.claimed.sublist h.named)
  placed := by
    have hnodup := (List.nodup_reverse.mpr h.files).sublist h.placed
    apply (List.pairwise_map.mp hnodup).imp_of_mem
    intro first second hfirst hsecond hne hpackage hfile
    have hsmall : ∀ entry ∈ emission.works.structs, entry.file.toLower = entry.file := by
      intro entry hentry
      have hmem := h.placed.subset (List.mem_map_of_mem hentry)
      exact (h.small _ (List.mem_reverse.mp hmem)).toLower_eq
    rw [hsmall first hfirst, hsmall second hsecond] at hfile
    exact hne (Prod.ext hpackage hfile)

theorem Kept.remember {emission : Emission σ} {taken : List GeneratedFile}
    (h : Kept set Log emission taken) {memo : Memo} (hmemo : memo.Settled set) :
    Kept set Log { emission with works := { emission.works with memo := memo } } taken :=
  { h with settled := hmemo }

/-- A name is claimed when the walk comes to a type, also if its file is not written then. -/
theorem Kept.claim {emission : Emission σ} {taken : List GeneratedFile}
    (h : Kept set Log emission taken) (key : StructKey) (id : TypeId) :
    Kept set Log { emission with claims := emission.claims.put key id } taken :=
  { h with
    claimed := Table.nodup_keys_put h.claimed key id
    named := by
      apply h.named.trans
      rw [Table.keys_put]
      split
      · exact List.Sublist.refl _
      · exact List.sublist_append_left _ _ }

/-- A file name is taken before the file is written, and stays taken if that fails. -/
theorem Kept.take {claims : Claims} {works : Works σ} {taken : List GeneratedFile}
    (h : Kept set Log ⟨claims, works⟩ taken) (package : String) {name : String}
    (hname : Identifier.IsPlain name) :
    Kept set Log ⟨claims, { works with
      files := (package, Works.freeFile works.files package name) :: works.files }⟩ taken :=
  { h with
    files := List.nodup_cons.mpr ⟨Works.freeFile_notMem works.files package name, h.files⟩
    placed := by
      rw [List.reverse_cons]
      exact h.placed.trans (List.sublist_append_left _ _)
    small := by
      intro entry hentry
      rcases List.mem_cons.mp hentry with rfl | hmem
      · exact Works.isFileText_freeFile works.files package hname
      · exact h.small entry hmem }

theorem kept_writeStruct (hlogs : sink.Logs Log) {claims : Claims} {works : Works σ}
    (h : ∃ taken, Kept set Log ⟨claims, works⟩ taken) (id : TypeId) {type : TypeDef}
    (hnew : type.structKey options ∉ claims.keys) :
    ∃ taken, Kept set Log ⟨claims.put (type.structKey options) id,
      stateAfter (Works.writeStruct set options sink id type works)⟩ taken := by
  obtain ⟨taken, hkept⟩ := h
  obtain ⟨memo, hmemo, hcases⟩ := Works.writeStruct_cases options sink id type hkept.settled
  have hclaimed := (hkept.remember hmemo).claim (type.structKey options) id
  rcases hcases with ⟨error, heq⟩ | ⟨file, found, hfile, fileName, rfl, hwrite⟩
  · rw [heq]
    exact ⟨taken, hclaimed⟩
  · have hdescribes := Works.structFile_describes hfile
    have hpackage := hdescribes.package
    have hname := hdescribes.name
    have hplain : Identifier.IsPlain file.name := hname ▸ type.isPlain_structName
    have hplaced := hclaimed.take file.package hplain
    rcases hwrite with ⟨error, state, hrefused, heq⟩ | ⟨referenced, state, htaken, heq⟩
    · rw [heq]
      exact ⟨taken, { hplaced with logged := hlogs.refused hkept.logged hrefused }⟩
    · rw [heq]
      have hkey : (file.package, file.name) = type.structKey options := by
        rw [hpackage, hname]
        rfl
      refine ⟨_, { hplaced with
        logged := hlogs.taken hkept.logged htaken
        matched := ?_
        named := ?_
        placed := ?_ }⟩
      · exact List.rel_append hkept.matched (.cons ⟨rfl, rfl, file, rfl, rfl, rfl⟩ .nil)
      · simp only [stateAfter, List.map_append, Table.keys_put, if_neg hnew, List.map_cons,
          List.map_nil, hkey]
        exact hkept.named.append (List.Sublist.refl _)
      · simp only [stateAfter, List.map_append, List.reverse_cons]
        exact hkept.placed.append (List.Sublist.refl _)

theorem lasting_kept (hlogs : sink.Logs Log) :
    Lasting set options sink fun emission => ∃ taken, Kept set Log emission taken where
  settled := fun ⟨_, hkept⟩ => hkept.settled
  remember := fun ⟨taken, hkept⟩ hmemo => ⟨taken, hkept.remember hmemo⟩
  write h _ hnew := kept_writeStruct hlogs h _ hnew

theorem Lasting.call {Holds : Emission σ → Prop} (h : Lasting set options sink Holds)
    (call : Call) {emission : Emission σ} (hstart : Holds emission) :
    Holds (stateAfter (call.run set options sink emission)) := by
  cases call with
  | type id => exact h.emit id hstart
  | roots => exact h.emitSeeds (seeds set options) hstart
  | newEmitter => exact h.remember hstart (Memo.settled_empty set)

theorem Lasting.afterCalls {Holds : Emission σ → Prop} (h : Lasting set options sink Holds)
    (calls : List Call) {emission : Emission σ} (hstart : Holds emission) :
    Holds (Emission.afterCalls set options sink calls emission) := by
  induction calls generalizing emission with
  | nil => exact hstart
  | cons call rest ih => exact ih (h.call call hstart)

end Emission

end SchemaBinding
