import SchemaBinding.Component.Occurs
import SchemaBinding.Proofs.Outcome
import Mathlib

namespace SchemaBinding.Occurs

/-- A text that is, but for blanks around it, an optional plus sign and the digits of a number. -/
def Writes (text : String) (number : Nat) : Prop :=
  ∃ digits : List Char, digits ≠ [] ∧ (∀ c ∈ digits, c.isDigit = true) ∧
    ((Text.trim text).toList = digits ∨ (Text.trim text).toList = '+' :: digits) ∧
    number = Nat.ofDigitChars 10 digits 0

/-- The number written for the least count, or one where nothing is. -/
inductive WritesLeast : Option String → Nat → Prop
  | nothing : WritesLeast none 1
  | number {text : String} {number : Nat} : Writes text number → WritesLeast (some text) number

/-- The number written for the greatest count, or one where nothing is; there is none for a count
that is written to have no bound. -/
inductive WritesGreatest : Option String → Option Nat → Prop
  | nothing : WritesGreatest none (some 1)
  | unbounded {text : String} : Text.trim text = "unbounded" → WritesGreatest (some text) none
  | number {text : String} {number : Nat} : Writes text number →
      WritesGreatest (some text) (some number)

theorem le_ofDigitChars (digits : List Char) (value : Nat) :
    value ≤ Nat.ofDigitChars 10 digits value := by
  induction digits generalizing value with
  | nil => exact Nat.le_refl value
  | cons c rest ih =>
      rw [Nat.ofDigitChars_cons]
      calc value
        _ ≤ 10 * value + (c.toNat - '0'.toNat) := by omega
        _ ≤ Nat.ofDigitChars 10 rest (10 * value + (c.toNat - '0'.toNat)) := ih _

theorem addDigit?_digit {c : Char} (h : c.isDigit = true) (value : Nat) :
    addDigit? value c = if 10 * value + (c.toNat - '0'.toNat) ≤ ceiling then
      some (10 * value + (c.toNat - '0'.toNat)) else none := by
  rw [addDigit?, if_pos h, Nat.mul_comm value 10]

/-- Digits are read as their number unless it is above the ceiling, which one of them shows. -/
theorem foldlM_addDigit? {digits : List Char} (h : ∀ c ∈ digits, c.isDigit = true) {value : Nat}
    (hvalue : value ≤ ceiling) :
    digits.foldlM addDigit? value =
      if Nat.ofDigitChars 10 digits value ≤ ceiling then some (Nat.ofDigitChars 10 digits value)
      else none := by
  induction digits generalizing value with
  | nil => exact (if_pos hvalue).symm
  | cons c rest ih =>
      have hrest := fun d hd => h d (List.mem_cons_of_mem c hd)
      rw [List.foldlM_cons, addDigit?_digit (h c List.mem_cons_self), Nat.ofDigitChars_cons]
      by_cases hnext : 10 * value + (c.toNat - '0'.toNat) ≤ ceiling
      · rw [if_pos hnext]
        exact ih hrest hnext
      · -- further digits only add to a number, so it stays above the ceiling
        have hgrows := le_ofDigitChars rest (10 * value + (c.toNat - '0'.toNat))
        have habove : ¬ Nat.ofDigitChars 10 rest (10 * value + (c.toNat - '0'.toNat)) ≤ ceiling :=
          fun hle => hnext (hgrows.trans hle)
        rw [if_neg hnext, if_neg habove]
        rfl

theorem eq_or_eq_plus (text : List Char) : text = unsigned text ∨ text = '+' :: unsigned text := by
  unfold unsigned
  split
  · exact .inr rfl
  · exact .inl rfl

theorem unsigned_digits {digits : List Char} (h : ∀ c ∈ digits, c.isDigit = true) :
    unsigned digits = digits := by
  unfold unsigned
  split
  · exact absurd (h '+' List.mem_cons_self) (by decide)
  · rfl

theorem word?_digits {digits : List Char} (hsome : digits ≠ [])
    (h : ∀ c ∈ digits, c.isDigit = true) :
    (word? digits).getD ceiling = min (Nat.ofDigitChars 10 digits 0) ceiling := by
  have hnonempty : digits.isEmpty = false := by simpa using hsome
  rw [word?, unsigned_digits h, hnonempty, if_neg Bool.false_ne_true,
    foldlM_addDigit? h (Nat.zero_le _)]
  split
  case isTrue hle => rw [Option.getD_some, Nat.min_eq_left hle]
  case isFalse hgt => rw [Option.getD_none, Nat.min_eq_right (Nat.le_of_not_le hgt)]

theorem count?_eq_some_iff {text : String} {count : Nat} :
    count? (Text.trim text) = some count ↔
      ∃ number, Writes text number ∧ count = min number ceiling := by
  constructor
  · intro h
    simp only [count?] at h
    split at h
    case isTrue hdigits =>
        obtain ⟨hnonempty, hall⟩ := (Bool.and_eq_true _ _).mp hdigits
        have hsome : unsigned (Text.trim text).toList ≠ [] := by simpa using hnonempty
        have hdigit := List.all_eq_true.mp hall
        refine ⟨_, ⟨_, hsome, hdigit, eq_or_eq_plus _, rfl⟩, ?_⟩
        rw [← word?_digits hsome hdigit]
        exact (Option.some.inj h).symm
    case isFalse => cases h
  · rintro ⟨number, ⟨digits, hsome, hdigit, htext, rfl⟩, rfl⟩
    have hdigits : unsigned (Text.trim text).toList = digits := by
      rcases htext with heq | heq
      · rw [heq, unsigned_digits hdigit]
      · rw [heq, unsigned]
    have hchecked : (!digits.isEmpty && digits.all Char.isDigit) = true := by
      simpa [hsome] using hdigit
    simp only [count?, hdigits]
    rw [if_pos hchecked, word?_digits hsome hdigit]

theorem readLeast_eq_ok_iff {least : Option String} {low : Nat} :
    readLeast least = .ok low ↔ ∃ number, WritesLeast least number ∧ low = min number ceiling := by
  constructor
  · intro h
    unfold readLeast at h
    split at h
    case h_1 =>
        cases h
        exact ⟨1, .nothing, rfl⟩
    case h_2 text =>
        split at h
        case h_1 count hcount =>
            cases h
            obtain ⟨number, hnumber, hlow⟩ := count?_eq_some_iff.mp hcount
            exact ⟨number, .number hnumber, hlow⟩
        case h_2 => cases h
  · rintro ⟨number, hwritten, rfl⟩
    cases hwritten with
    | nothing => rfl
    | number hnumber =>
        have hcount := count?_eq_some_iff.mpr ⟨number, hnumber, rfl⟩
        simp only [readLeast, hcount]

theorem ne_unbounded {text : String} {number : Nat} (h : Writes text number) :
    Text.trim text ≠ "unbounded" := by
  obtain ⟨digits, _, hdigit, htext, _⟩ := h
  intro heq
  rw [heq] at htext
  rcases htext with hdigits | hdigits
  · exact absurd (hdigit 'u' (by rw [← hdigits]; decide)) (by decide)
  · exact absurd (List.cons.inj hdigits).1 (by decide)

theorem readGreatest_eq_ok_iff {greatest : Option String} {high : Option Nat} :
    readGreatest greatest = .ok high ↔
      ∃ number?, WritesGreatest greatest number? ∧ high = number?.map (min · ceiling) := by
  constructor
  · intro h
    unfold readGreatest at h
    split at h
    case h_1 =>
        cases h
        exact ⟨some 1, .nothing, rfl⟩
    case h_2 text =>
        split at h
        case isTrue hunbounded =>
            cases h
            exact ⟨none, .unbounded hunbounded, rfl⟩
        case isFalse =>
            split at h
            case h_1 count hcount =>
                cases h
                obtain ⟨number, hnumber, rfl⟩ := count?_eq_some_iff.mp hcount
                exact ⟨some number, .number hnumber, rfl⟩
            case h_2 => cases h
  · rintro ⟨number?, hwritten, rfl⟩
    cases hwritten with
    | nothing => rfl
    | unbounded hunbounded => simp only [readGreatest, if_pos hunbounded, Option.map_none]
    | number hnumber =>
        have hcount := count?_eq_some_iff.mpr ⟨_, hnumber, rfl⟩
        simp only [readGreatest, if_neg (ne_unbounded hnumber), hcount, Option.map_some]

theorem read_eq_ok_iff {least greatest : Option String} {occurs : Occurs} :
    read least greatest = .ok occurs ↔ ∃ number number?,
      WritesLeast least number ∧ WritesGreatest greatest number? ∧
        occurs = ⟨min number ceiling, number?.map (min · ceiling)⟩ := by
  rw [read, bind_eq_ok_iff]
  simp only [bind_eq_ok_iff, readLeast_eq_ok_iff, readGreatest_eq_ok_iff]
  constructor
  · rintro ⟨_, ⟨number, hleast, rfl⟩, _, ⟨number?, hgreatest, rfl⟩, heq⟩
    cases heq
    exact ⟨number, number?, hleast, hgreatest, rfl⟩
  · rintro ⟨number, number?, hleast, hgreatest, rfl⟩
    exact ⟨_, ⟨number, hleast, rfl⟩, _, ⟨number?, hgreatest, rfl⟩, rfl⟩

theorem isEmptiable_iff {number : Nat} (high : Option Nat) :
    isEmptiable ⟨min number ceiling, high⟩ = true ↔ number = 0 := by
  have hceiling : 1 ≤ ceiling := by decide
  simp only [isEmptiable, beq_iff_eq]
  omega

theorem isRepeated_iff (low : Nat) (number? : Option Nat) :
    isRepeated ⟨low, number?.map (min · ceiling)⟩ = true ↔ number? ≠ some 1 := by
  have hceiling : 2 ≤ ceiling := by decide
  cases number? with
  | none => simp [isRepeated]
  | some number =>
      simp only [isRepeated, Option.map_some, bne_iff_ne, ne_eq, Option.some.injEq]
      omega

/-- Bounds are read exactly where numbers are written for them, and stand for those up to the
greatest number of 64 bits. Whether they are emptiable or repeated is read off what is written. -/
theorem read_saturated (least greatest : Option String) :
    ((∃ occurs, read least greatest = .ok occurs) ↔
      (∃ number, WritesLeast least number) ∧ ∃ number?, WritesGreatest greatest number?) ∧
    ∀ number number?, WritesLeast least number → WritesGreatest greatest number? →
      ∃ occurs, read least greatest = .ok occurs ∧
        occurs.least = min number (2 ^ 64 - 1) ∧
        occurs.greatest = number?.map (min · (2 ^ 64 - 1)) ∧
        (occurs.isEmptiable = true ↔ number = 0) ∧
        (occurs.isRepeated = true ↔ number? ≠ some 1) := by
  constructor
  · constructor
    · rintro ⟨occurs, hread⟩
      obtain ⟨number, number?, hleast, hgreatest, _⟩ := read_eq_ok_iff.mp hread
      exact ⟨⟨number, hleast⟩, number?, hgreatest⟩
    · rintro ⟨⟨number, hleast⟩, number?, hgreatest⟩
      exact ⟨_, read_eq_ok_iff.mpr ⟨number, number?, hleast, hgreatest, rfl⟩⟩
  · intro number number? hleast hgreatest
    refine ⟨_, read_eq_ok_iff.mpr ⟨number, number?, hleast, hgreatest, rfl⟩, rfl, rfl, ?_, ?_⟩
    · exact isEmptiable_iff _
    · exact isRepeated_iff _ number?

/-- Zeros before a number, a plus sign, blanks and a number of 65 bits. -/
theorem read_saturated_beyond :
    WritesLeast (some "\t+0000000000000000000000\n") 0 ∧
      WritesGreatest (some " 0018446744073709551617") (some 18446744073709551617) ∧
      ∃ occurs,
        read (some "\t+0000000000000000000000\n") (some " 0018446744073709551617") = .ok occurs ∧
          occurs = ⟨0, some 18446744073709551615⟩ ∧
          occurs.isEmptiable = true ∧ occurs.isRepeated = true := by
  have hleast : WritesLeast (some "\t+0000000000000000000000\n") 0 :=
    .number ⟨"0000000000000000000000".toList, by decide, by simp, by decide, by decide⟩
  have hgreatest : WritesGreatest (some " 0018446744073709551617") (some 18446744073709551617) :=
    .number ⟨"0018446744073709551617".toList, by decide, by simp, by decide, by decide⟩
  obtain ⟨⟨low, high⟩, hread, hlow, hhigh, hemptiable, hrepeated⟩ :=
    (read_saturated _ _).2 _ _ hleast hgreatest
  refine ⟨hleast, hgreatest, _, hread, ?_, hemptiable.mpr rfl, hrepeated.mpr (by decide)⟩
  cases hlow
  cases hhigh
  rfl

end SchemaBinding.Occurs
