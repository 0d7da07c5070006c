import SchemaBinding.Proofs.Emission.Exact
import SchemaBinding.Proofs.Name.Underscores

namespace SchemaBinding

open Identifier (IsPlain fileName fileStem)

namespace Works

/-- The preferred file name where it is free, and else the one with the least number that is. -/
inductive GetsFile (files : List (String × String)) (package name : String) : String → Prop
  | preferred : (package, fileName name) ∉ files → GetsFile files package name (fileName name)
  | numbered {number : Nat} : (package, fileName name) ∈ files → 2 ≤ number →
      (package, numberedFile (fileStem name) number) ∉ files →
        (∀ less, 2 ≤ less → less < number →
          (package, numberedFile (fileStem name) less) ∈ files) →
            GetsFile files package name (numberedFile (fileStem name) number)

/-- The first free name among the numbered ones has the least number. -/
theorem getsFile_freeFile (files : List (String × String)) (package name : String) :
    GetsFile files package name (freeFile files package name) := by
  by_cases hpreferred : (package, fileName name) ∈ files
  case neg =>
      rw [freeFile_of_notMem hpreferred]
      exact .preferred hpreferred
  case pos =>
      rw [freeFile]
      cases hfound : (candidates files.length name).find? fun file =>
          decide ((package, file) ∉ files) with
      | none =>
          have hfree := freeFile_notMem files package name
          rw [freeFile, hfound] at hfree
          exact absurd hpreferred hfree
      | some file =>
          rw [candidates, List.find?_cons_of_neg (by simpa using hpreferred), List.find?_map,
            Option.map_eq_some_iff] at hfound
          obtain ⟨index, hindex, rfl⟩ := hfound
          obtain ⟨hfree, _, hless⟩ := List.find?_range_eq_some.mp hindex
          refine .numbered hpreferred (Nat.le_add_left 2 index) (of_decide_eq_true hfree) ?_
          intro less htwo hlt
          have htaken := hless (less - 2) (by omega)
          rw [Function.comp_apply, Nat.sub_add_cancel htwo] at htaken
          simpa using htaken

end Works

namespace Emission

variable {σ : Type} {set : SchemaSet} {options : Options} {sink : Sink σ}

/-- A file name is one that the struct of some name could get. -/
def IsFileOf (name file : String) : Prop :=
  file = fileName name ∨ ∃ number, file = Works.numberedFile (fileStem name) number

/-- Each file name that is taken belongs to a name claimed in its package. -/
structure Owned (set : SchemaSet) (emission : Emission σ) : Prop where
  settled : emission.works.memo.Settled set
  owned : ∀ entry ∈ emission.works.files, ∃ name, IsPlain name ∧
    (entry.1, name) ∈ emission.claims.keys ∧ IsFileOf name entry.2

theorem isFileOf_of_getsFile {files : List (String × String)} {package name file : String}
    (h : Works.GetsFile files package name file) : IsFileOf name file := by
  cases h with
  | preferred => exact .inl rfl
  | numbered => exact .inr ⟨_, rfl⟩

theorem Owned.claim {emission : Emission σ} (h : Owned set emission) (key : StructKey)
    (id : TypeId) : Owned set { emission with claims := emission.claims.put key id } where
  settled := h.settled
  owned entry hentry := by
    obtain ⟨name, hplain, hclaimed, hfile⟩ := h.owned entry hentry
    exact ⟨name, hplain, Table.mem_keys_put.mpr (.inl hclaimed), hfile⟩

theorem owned_writeStruct {claims : Claims} {works : Works σ} (h : Owned set ⟨claims, works⟩)
    (id : TypeId) (type : TypeDef) :
    Owned set ⟨claims.put (type.structKey options) id,
      stateAfter (Works.writeStruct set options sink id type works)⟩ := by
  obtain ⟨memo, hmemo, hcases⟩ := Works.writeStruct_cases options sink id type h.settled
  have hclaimed := h.claim (type.structKey options) id
  rcases hcases with ⟨error, heq⟩ | ⟨file, found, hfile, fileName, rfl, hwrite⟩
  · rw [heq]
    exact { hclaimed with settled := hmemo }
  · have hdescribes := Works.structFile_describes hfile
    have htaken : ∀ entry ∈ (file.package, Works.freeFile works.files file.package file.name) ::
        works.files, ∃ name, IsPlain name ∧
          (entry.1, name) ∈ (claims.put (type.structKey options) id).keys ∧
            IsFileOf name entry.2 := by
      intro entry hentry
      rcases List.mem_cons.mp hentry with rfl | hmem
      · rw [hdescribes.package, hdescribes.name]
        exact ⟨type.structName, type.isPlain_structName, Table.mem_keys_put.mpr (.inr rfl),
          isFileOf_of_getsFile (Works.getsFile_freeFile _ _ _)⟩
      · exact hclaimed.owned entry hmem
    rcases hwrite with ⟨error, state, _, heq⟩ | ⟨referenced, state, _, heq⟩
    · rw [heq]
      exact ⟨hmemo, htaken⟩
    · rw [heq]
      exact ⟨hmemo, htaken⟩

theorem lasting_owned : Lasting set options sink (Owned set) where
  settled := Owned.settled
  remember h hmemo := { h with settled := hmemo }
  write h _ _ := owned_writeStruct h _ _

theorem owned_afterCalls (calls : List Call) (state : σ) :
    Owned set (afterCalls set options sink calls { works := { sink := state } }) :=
  lasting_owned.afterCalls calls ⟨Memo.settled_empty set, fun _ hmem => nomatch hmem⟩

theorem Owned.exists_claimed {emission : Emission σ} (h : Owned set emission)
    {package name : String} (hname : IsPlain name)
    (htaken : (package, fileName name) ∈ emission.works.files) :
    ∃ other, (package, other) ∈ emission.claims.keys ∧ other.toLower = name.toLower := by
  obtain ⟨other, hplain, hclaimed, hfile⟩ := h.owned _ htaken
  refine ⟨other, hclaimed, ?_⟩
  rcases hfile with hpreferred | ⟨number, hnumbered⟩
  · exact Identifier.toLower_eq_of_fileName_eq hplain hname hpreferred.symm
  · exact absurd hnumbered.symm (Identifier.numberedFile_ne_fileName _ number hname)

/-- Without its underscores, the file name of a struct is the struct's name in lower case, so that
names with one file name differ in case at most. A struct gets its preferred file name, or else the
one with the least free number; this is no struct's preferred one, so that a preferred name is
taken for a name that differs in case at most. -/
theorem file_names_minimal (set : SchemaSet) (options : Options) (sink : Sink σ) :
    (∀ type : TypeDef, ∃ stem, fileName type.structName = stem ++ ".go" ∧
      stem.toList.filter (· ≠ '_') = type.structName.toLower.toList) ∧
    (∀ type other : TypeDef, fileName type.structName = fileName other.structName →
      type.structName.toLower = other.structName.toLower) ∧
    (∀ (package : String) (type : TypeDef) (works : Works σ), ∃ file,
      Works.claimFile package type.structName works =
          .ok file { works with files := (package, file) :: works.files } ∧
        (package, file) ∉ works.files ∧
          Works.GetsFile works.files package type.structName file) ∧
    (∀ (type other : TypeDef) (number : Nat),
      Works.numberedFile (fileStem type.structName) number ≠ fileName other.structName) ∧
    ∀ (calls : List Call) (state : σ) (package : String) (type : TypeDef),
      (package, fileName type.structName) ∈
          (afterCalls set options sink calls { works := { sink := state } }).works.files →
        ∃ name, (package, name) ∈
            (afterCalls set options sink calls { works := { sink := state } }).claims.keys ∧
          name.toLower = type.structName.toLower := by
  refine ⟨?_, ?_, ?_, ?_, ?_⟩
  · intro type
    exact Identifier.exists_stem type.isPlain_structName
  · intro type other
    exact Identifier.toLower_eq_of_fileName_eq type.isPlain_structName other.isPlain_structName
  · intro package type works
    exact ⟨_, rfl, Works.freeFile_notMem _ _ _, Works.getsFile_freeFile _ _ _⟩
  · intro type other number
    exact Identifier.numberedFile_ne_fileName _ number other.isPlain_structName
  · intro calls state package type
    exact (owned_afterCalls calls state).exists_claimed type.isPlain_structName

def casedType (name : String) : TypeDef where
  name := some name
  space := some "urn:shop"
  owner := none
  documentation := []
  span := ⟨⟨0⟩, 0, 0⟩
  body := .complex (.direct {}) false

def crowdedWorks : Works (Table String String) where
  files := [("shop", "order_id_2.go"), ("shop", "order_id.go")]
  sink := []

/-- Names that differ in case, and a file name that is numbered past another numbered one. -/
theorem file_names_minimal_cased :
    fileName (casedType "OrderID").structName = fileName (casedType "OrderId").structName ∧
      (casedType "OrderID").structName.toLower = (casedType "OrderId").structName.toLower ∧
      Works.claimFile "shop" (casedType "OrderId").structName crowdedWorks =
        .ok "order_id_3.go"
          { crowdedWorks with files := ("shop", "order_id_3.go") :: crowdedWorks.files } := by
  obtain ⟨_, hcase, hclaim, _⟩ := file_names_minimal {} {} Sink.memory
  have hsame : fileName (casedType "OrderID").structName =
      fileName (casedType "OrderId").structName := by decide
  refine ⟨hsame, hcase _ _ hsame, ?_⟩
  obtain ⟨file, hfile, _, hgets⟩ := hclaim "shop" (casedType "OrderId") crowdedWorks
  cases hgets with
  | preferred hfree => exact absurd hfree (by decide)
  | @numbered number _ htwo hfree hless =>
      have hsecond : number ≠ 2 := by
        rintro rfl
        exact absurd hfree (by decide)
      have hthird : ¬ 3 < number := fun hlt => absurd (hless 3 (by decide) hlt) (by decide)
      obtain rfl : number = 3 := by omega
      exact hfile

end Emission

end SchemaBinding
