import SchemaBinding.Emission.Struct
import SchemaBinding.Proofs.Name.FileName

namespace SchemaBinding

namespace Works

theorem numberedFile_inj {stem : String} {first second : Nat} :
    numberedFile stem first = numberedFile stem second ↔ first = second := by
  simp only [numberedFile, Nat.toString_eq_repr, String.append_left_inj,
    String.append_right_inj, Nat.repr_inj]

theorem isFileText_numberedFile {stem : String} (h : Identifier.IsFileText stem) (number : Nat) :
    Identifier.IsFileText (numberedFile stem number) := by
  have hnumber : Identifier.IsFileText (toString number) := by
    intro c hc
    rw [Nat.toString_eq_repr, Nat.toList_repr] at hc
    have hdigit : c.isDigit = true := Nat.isDigit_of_mem_toDigits (by decide) (by decide) hc
    simp [Identifier.isFileChar, hdigit]
  refine ((h.append ?_).append hnumber).append ?_
  · simp [Identifier.IsFileText, Identifier.isFileChar]
  · simp [Identifier.IsFileText, Identifier.isFileChar]

theorem isFileText_of_mem_candidates {count : Nat} {name file : String}
    (hname : Identifier.IsPlain name) (h : file ∈ candidates count name) :
    Identifier.IsFileText file := by
  rcases List.mem_cons.mp h with rfl | hnumbered
  · exact Identifier.isFileText_fileName hname
  · obtain ⟨index, _, rfl⟩ := List.mem_map.mp hnumbered
    exact isFileText_numberedFile (Identifier.isFileText_fileStem hname) (index + 2)

theorem freeFile_of_notMem {files : List (String × String)} {package name : String}
    (h : (package, Identifier.fileName name) ∉ files) :
    freeFile files package name = Identifier.fileName name := by
  rw [freeFile, candidates, List.find?_cons_of_pos (by simpa using h), Option.getD_some]

/-- There is one numbered name more than there are taken names. -/
theorem exists_candidate (files : List (String × String)) (package name : String) :
    ∃ file ∈ candidates files.length name, (package, file) ∉ files := by
  apply Decidable.byContradiction
  intro hnone
  let numbered := (List.range (files.length + 1)).map fun index =>
    (package, numberedFile (Identifier.fileStem name) (index + 2))
  have hnodup : numbered.Nodup := by
    apply List.Nodup.map _ List.nodup_range
    intro first second heq
    have hfile := numberedFile_inj.mp (congrArg Prod.snd heq)
    exact Nat.add_right_cancel hfile
  have htaken : numbered ⊆ files := by
    intro entry hentry
    obtain ⟨index, hindex, rfl⟩ := List.mem_map.mp hentry
    apply Decidable.byContradiction
    intro hfree
    exact hnone ⟨_, List.mem_cons_of_mem _ (List.mem_map_of_mem hindex), hfree⟩
  have hlength := (hnodup.subperm htaken).length_le
  simp only [numbered, List.length_map, List.length_range] at hlength
  omega

theorem freeFile_spec (files : List (String × String)) (package name : String) :
    freeFile files package name ∈ candidates files.length name ∧
      (package, freeFile files package name) ∉ files := by
  unfold freeFile
  cases hfound : (candidates files.length name).find? fun file =>
      decide ((package, file) ∉ files) with
  | none =>
      obtain ⟨file, hfile, hfree⟩ := exists_candidate files package name
      exact absurd (decide_eq_true hfree) (List.find?_eq_none.mp hfound file hfile)
  | some file =>
      have hfree := List.find?_some hfound
      exact ⟨List.mem_of_find?_eq_some hfound, of_decide_eq_true hfree⟩

theorem freeFile_notMem (files : List (String × String)) (package name : String) :
    (package, freeFile files package name) ∉ files :=
  (freeFile_spec files package name).2

theorem isFileText_freeFile (files : List (String × String)) (package : String) {name : String}
    (hname : Identifier.IsPlain name) :
    Identifier.IsFileText (freeFile files package name) :=
  isFileText_of_mem_candidates hname (freeFile_spec files package name).1

end Works

end SchemaBinding
