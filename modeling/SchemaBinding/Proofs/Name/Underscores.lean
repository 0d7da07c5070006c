import SchemaBinding.Proofs.Name.Legal

namespace SchemaBinding

namespace Identifier

theorem underscore_ne_of_isAlphanum {c : Char} (h : c.isAlphanum = true) : c ≠ '_' := by
  rintro rfl
  exact absurd h (by decide)

theorem isDigit_toLower {c : Char} (h : c.isUpper = true) : c.toLower.isDigit = false := by
  have halpha : c.isAlpha = true := by simp [Char.isAlpha, h]
  apply Bool.eq_false_iff.mpr
  intro hdigit
  have hlower := not_isLower_of_isDigit hdigit
  rw [Char.isLower_toLower_eq_isAlpha, halpha] at hlower
  cases hlower

/-- Underscores are all that is added, and capitals all that is changed. -/
theorem filter_snakeChars {text : List Char} (h : ∀ c ∈ text, c.isAlphanum = true)
    (before : Option Char) :
    (snakeChars before text).filter (· ≠ '_') = text.map Char.toLower := by
  induction text generalizing before with
  | nil => rfl
  | cons c rest ih =>
      have hc := h c List.mem_cons_self
      have htail := ih (fun d hd => h d (List.mem_cons_of_mem c hd)) (some c)
      rw [snakeChars, List.map_cons, ← htail]
      by_cases hupper : c.isUpper = true
      · have hlower := underscore_ne_of_isAlphanum (isAlphanum_toLower hc)
        rw [if_pos hupper]
        split <;> simp [hlower]
      · have hsame : c.toLower = c := Char.toLower_eq_of_not_isUpper hupper
        rw [if_neg hupper, hsame]
        simp [underscore_ne_of_isAlphanum hc]

/-- An underscore stands in front of a letter. -/
def Parted (chars : List Char) : Prop :=
  chars.IsChain fun c next => c = '_' → next.isDigit = false

theorem Parted.cons {c : Char} {chars : List Char} (h : Parted chars) (hc : c ≠ '_') :
    Parted (c :: chars) :=
  List.isChain_cons.mpr ⟨fun _ _ heq => absurd heq hc, h⟩

theorem parted_snakeChars {text : List Char} (h : ∀ c ∈ text, c.isAlphanum = true)
    (before : Option Char) : Parted (snakeChars before text) := by
  induction text generalizing before with
  | nil => exact .nil
  | cons c rest ih =>
      have hc := h c List.mem_cons_self
      have htail := ih (fun d hd => h d (List.mem_cons_of_mem c hd)) (some c)
      rw [snakeChars]
      by_cases hupper : c.isUpper = true
      · have hlower := htail.cons
          (underscore_ne_of_isAlphanum (isAlphanum_toLower hc))
        rw [if_pos hupper]
        split
        · refine List.isChain_cons.mpr ⟨?_, hlower⟩
          rintro _ ⟨⟩ _
          exact isDigit_toLower hupper
        · exact hlower
      · rw [if_neg hupper]
        exact htail.cons (underscore_ne_of_isAlphanum hc)

theorem exists_stem {name : String} (h : IsPlain name) :
    ∃ stem, fileName name = stem ++ ".go" ∧
      stem.toList.filter (· ≠ '_') = name.toLower.toList := by
  refine ⟨fileStem name, rfl, ?_⟩
  rw [fileStem, String.toList_ofList, filter_snakeChars h, String.toLower, String.toList_map]

theorem toLower_eq_of_fileName_eq {name other : String} (hname : IsPlain name)
    (hother : IsPlain other) (h : fileName name = fileName other) :
    name.toLower = other.toLower := by
  obtain ⟨stem, hstem, hletters⟩ := exists_stem hname
  obtain ⟨otherStem, hotherStem, hotherLetters⟩ := exists_stem hother
  rw [hstem, hotherStem, String.append_left_inj] at h
  rw [← String.toList_inj, ← hletters, ← hotherLetters, h]

theorem exists_digit (number : Nat) :
    ∃ c rest, (toString number).toList = c :: rest ∧ c.isDigit = true := by
  rw [Nat.toString_eq_repr, Nat.toList_repr]
  obtain ⟨c, rest, hdigits⟩ := List.exists_cons_of_ne_nil (Nat.toDigits_ne_nil (b := 10))
  refine ⟨c, rest, hdigits, ?_⟩
  exact Nat.isDigit_of_mem_toDigits (by decide) (by decide) (hdigits ▸ List.mem_cons_self)

/-- A number does not stand where a word begins. -/
theorem numberedFile_ne_fileName (stem : String) (number : Nat) {name : String}
    (h : IsPlain name) : Works.numberedFile stem number ≠ fileName name := by
  rw [Works.numberedFile, fileName, ne_eq, String.append_left_inj]
  intro heq
  obtain ⟨c, rest, hdigits, hdigit⟩ := exists_digit number
  have hchars := congrArg String.toList heq
  rw [fileStem, String.toList_ofList, String.toList_append, String.toList_append, hdigits,
    List.append_assoc] at hchars
  have hparted := parted_snakeChars h none
  rw [← hchars] at hparted
  have hpair := (List.isChain_append.mp hparted).2.1
  have hletter := (List.isChain_cons_cons.mp hpair).1 rfl
  rw [hdigit] at hletter
  cases hletter

end Identifier

end SchemaBinding
