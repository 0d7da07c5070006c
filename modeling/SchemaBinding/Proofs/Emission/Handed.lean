import SchemaBinding.Proofs.Report
import SchemaBinding.Proofs.Struct.Names

namespace SchemaBinding

open Identifier (IsExported IsFileName)
open Sink (GeneratedFile)

variable {σ : Type}

/-- A file in a usable package, under a plain name, that declares a struct with exported names. -/
structure Sink.GeneratedFile.Legal (made : GeneratedFile) : Prop where
  package : Identifier.isPackage made.package = true
  file : IsFileName made.file
  contents : ∃ file : StructFile, made.contents = file.text ∧ file.package = made.package ∧
    IsExported file.name ∧ ∀ field ∈ file.fields, IsExported field.name

namespace Sink

/-- Notes each file that the sink is handed, whether or not it takes it. -/
def handed (sink : Sink σ) : Sink (σ × List GeneratedFile) where
  write package file contents := fun (state, noted) =>
    match sink.write package file contents state with
    | .ok () after => .ok () (after, noted ++ [⟨package, file, contents⟩])
    | .error error after => .error error (after, noted ++ [⟨package, file, contents⟩])

theorem handed_seenAs (sink : Sink σ) : SeenAs Prod.fst sink.handed sink := by
  rintro package file contents ⟨state, noted⟩
  simp only [handed]
  cases sink.write package file contents state <;> rfl

/-- What is kept when such a file is handed over, taken or not. -/
def Keeps (sink : Sink σ) (Fit : GeneratedFile → Prop) (Holds : σ → Prop) : Prop :=
  ∀ made state, Fit made → Holds state →
    Holds (stateAfter (sink.write made.package made.file made.contents state))

theorem keeps_handed (sink : Sink σ) (Fit : GeneratedFile → Prop) :
    sink.handed.Keeps Fit fun state => ∀ made ∈ state.2, Fit made := by
  rintro made ⟨state, noted⟩ hmade hnoted
  have hmore : ∀ other ∈ noted ++ [made], Fit other := by
    intro other hother
    rcases List.mem_append.mp hother with hmem | hmem
    · exact hnoted other hmem
    · rw [List.mem_singleton.mp hmem]
      exact hmade
  simp only [handed]
  cases sink.write made.package made.file made.contents state <;> exact hmore

end Sink

theorem Works.legal_of_structFile {set : SchemaSet} {options : Options}
    (hvalid : options.validate = .ok ()) {id : TypeId} {type : TypeDef} {file : StructFile}
    {referenced : List TypeId}
    (h : structFile set options set.answers id type = .ok (file, referenced))
    (files : List (String × String)) :
    GeneratedFile.Legal ⟨file.package, freeFile files file.package file.name, file.text⟩ := by
  have hdescribes := structFile_describes h
  have hname : IsExported file.name := hdescribes.name ▸ type.isExported_structName
  refine ⟨?_, isFileName_freeFile files file.package hname, file, rfl, rfl, hname,
    exported_of_structFile h⟩
  rw [hdescribes.package]
  exact Options.isPackage_packageFor hvalid type.space

namespace Emission

variable {set : SchemaSet} {options : Options} {sink : Sink σ} {Holds : σ → Prop}

theorem lasting_of_keeps (hvalid : options.validate = .ok ())
    (hkeeps : sink.Keeps GeneratedFile.Legal Holds) :
    Lasting set options sink fun emission =>
      emission.works.memo.Settled set ∧ Holds emission.works.sink where
  settled h := h.1
  remember h hmemo := ⟨hmemo, h.2⟩
  write := by
    rintro claims works id type ⟨hsettled, hholds⟩ _ _
    refine ⟨Works.settled_writeStruct options sink id type hsettled, ?_⟩
    obtain ⟨memo, _, hcases⟩ := Works.writeStruct_cases options sink id type hsettled
    rcases hcases with ⟨error, heq⟩ | ⟨file, found, hfile, fileName, rfl, hwrite⟩
    · rw [heq]
      exact hholds
    · have hlegal := Works.legal_of_structFile hvalid hfile works.files
      have hafter := hkeeps _ _ hlegal hholds
      rcases hwrite with ⟨error, state, hstate, heq⟩ | ⟨referenced, state, hstate, heq⟩
      · rw [hstate] at hafter
        rw [heq]
        exact hafter
      · rw [hstate] at hafter
        rw [heq]
        exact hafter

end Emission

namespace Generation

variable {sink : Sink σ} {Holds : σ → Prop}

theorem validate_of_load {tree : FileTree} {options : Options} {set : SchemaSet}
    (h : load tree options = .ok set) : options.validate = .ok () := by
  simp only [load, bind_eq_ok_iff] at h
  obtain ⟨_, hvalid, _⟩ := h
  exact hvalid

theorem holds_after_run (hkeeps : sink.Keeps GeneratedFile.Legal Holds) (tree : FileTree)
    (options : Options) {state : σ} (hstart : Holds state) :
    Holds (stateAfter (run tree options sink state)) := by
  unfold run
  cases hload : load tree options with
  | error error => exact hstart
  | ok set =>
      have hlasting : Emission.Lasting set options sink _ :=
        Emission.lasting_of_keeps (validate_of_load hload) hkeeps
      have hroots : Holds (stateAfter (Emission.emitRoots set options sink
          { works := { sink := state } })).works.sink :=
        (hlasting.emitSeeds (Emission.seeds set options) ⟨Memo.settled_empty set, hstart⟩).2
      simp only [write]
      cases hresult : Emission.emitRoots set options sink { works := { sink := state } } with
      | error error emission =>
          rw [hresult] at hroots
          exact hroots
      | ok _ emission =>
          rw [hresult] at hroots
          exact hroots

end Generation

end SchemaBinding
