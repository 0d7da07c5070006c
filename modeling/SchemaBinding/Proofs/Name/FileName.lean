import SchemaBinding.Struct.Naming
import Mathlib

namespace SchemaBinding

namespace Identifier

theorem not_isLower_of_isDigit {c : Char} (h : c.isDigit = true) : c.isLower = false := by
  simp only [Char.isDigit, Char.isLower, Bool.and_eq_true, decide_eq_true_eq] at h ⊢
  grind

theorem not_isUpper_of_isDigit {c : Char} (h : c.isDigit = true) : c.isUpper = false := by
  simp only [Char.isDigit, Char.isUpper, Bool.and_eq_true, decide_eq_true_eq] at h ⊢
  grind

theorem isAlphanum_toUpper {c : Char} (h : c.isAlphanum = true) :
    c.toUpper.isAlphanum = true := by
  rw [Char.isAlphanum, Bool.or_eq_true] at h ⊢
  rcases h with halpha | hdigit
  · rw [Char.isAlpha_toUpper_eq_isAlpha]
    exact .inl halpha
  · rw [Char.toUpper_eq_of_not_isLower (by simp [not_isLower_of_isDigit hdigit])]
    exact .inr hdigit

theorem isAlphanum_of_mem_exportChars {raised : Bool} {text : List Char} {c : Char}
    (h : c ∈ exportChars raised text) : c.isAlphanum = true := by
  induction text generalizing raised with
  | nil => cases h
  | cons first rest ih =>
      rw [exportChars] at h
      split at h
      case isTrue => exact ih h
      case isFalse =>
          split at h
          case isFalse => exact ih h
          case isTrue halphanum =>
              rcases List.mem_cons.mp h with rfl | hlater
              · split
                · exact isAlphanum_toUpper halphanum
                · exact halphanum
              · exact ih hlater

/-- A name of letters and digits. -/
def IsPlain (name : String) : Prop :=
  ∀ c ∈ name.toList, c.isAlphanum = true

theorem isPlain_exported (name : String) : IsPlain (exported name) := by
  intro c hc
  unfold exported at hc
  split at hc
  case h_1 =>
      rw [List.mem_singleton.mp hc]
      rfl
  case h_2 first rest hchars =>
      have hall : ∀ d ∈ first :: rest, d.isAlphanum = true := by
        intro d hd
        rw [← hchars] at hd
        exact isAlphanum_of_mem_exportChars hd
      rw [String.toList_ofList] at hc
      split at hc
      · rcases List.mem_cons.mp hc with rfl | hmem
        · rfl
        · exact hall c hmem
      · exact hall c hc

theorem IsPlain.append {first second : String} (hfirst : IsPlain first)
    (hsecond : IsPlain second) : IsPlain (first ++ second) := by
  intro c hc
  rw [String.toList_append] at hc
  rcases List.mem_append.mp hc with h | h
  · exact hfirst c h
  · exact hsecond c h

def isFileChar (c : Char) : Bool :=
  c.isLower || c.isDigit || c == '_' || c == '.'

def IsFileText (text : String) : Prop :=
  ∀ c ∈ text.toList, isFileChar c = true

theorem toLower_of_isFileChar {c : Char} (h : isFileChar c = true) : c.toLower = c := by
  apply Char.toLower_eq_of_not_isUpper
  simp only [isFileChar, Bool.or_eq_true, beq_iff_eq] at h
  rcases h with ((hlower | hdigit) | rfl) | rfl
  · simp only [Char.isLower, Char.isUpper, Bool.and_eq_true, decide_eq_true_eq] at hlower ⊢
    grind
  · simp [not_isUpper_of_isDigit hdigit]
  · decide
  · decide

theorem slash_ne_of_isFileChar {c : Char} (h : isFileChar c = true) : c ≠ '/' := by
  rintro rfl
  exact absurd h (by decide)

theorem IsFileText.append {first second : String} (hfirst : IsFileText first)
    (hsecond : IsFileText second) : IsFileText (first ++ second) := by
  intro c hc
  rw [String.toList_append] at hc
  rcases List.mem_append.mp hc with h | h
  · exact hfirst c h
  · exact hsecond c h

theorem IsFileText.toLower_eq {text : String} (h : IsFileText text) : text.toLower = text := by
  apply String.toList_inj.mp
  rw [String.toLower, String.toList_map]
  calc text.toList.map Char.toLower
    _ = text.toList.map id := List.map_congr_left fun c hc => toLower_of_isFileChar (h c hc)
    _ = text.toList := List.map_id _

def isStemChar (c : Char) : Bool :=
  c.isLower || c.isDigit || c == '_'

theorem isFileChar_of_isStemChar {c : Char} (h : isStemChar c = true) : isFileChar c = true :=
  (Bool.or_eq_true _ _).mpr (.inl h)

theorem isStemChar_toLower {c : Char} (h : c.isUpper = true) : isStemChar c.toLower = true := by
  have halpha : c.isAlpha = true := by simp [Char.isAlpha, h]
  simp [isStemChar, Char.isLower_toLower_eq_isAlpha, halpha]

theorem isStemChar_of_mem_snakeChars {before : Option Char} {text : List Char}
    (htext : ∀ c ∈ text, c.isAlphanum = true) {c : Char} (h : c ∈ snakeChars before text) :
    isStemChar c = true := by
  induction text generalizing before with
  | nil => cases h
  | cons first rest ih =>
      have hfirst := htext first List.mem_cons_self
      have hrest : ∀ d ∈ rest, d.isAlphanum = true := fun d hd =>
        htext d (List.mem_cons_of_mem first hd)
      have hlater : c ∈ snakeChars (some first) rest → isStemChar c = true := ih hrest
      rw [snakeChars] at h
      by_cases hupper : first.isUpper = true
      · rw [if_pos hupper] at h
        split at h
        · rcases List.mem_cons.mp h with rfl | h
          · rfl
          · rcases List.mem_cons.mp h with rfl | h
            · exact isStemChar_toLower hupper
            · exact hlater h
        · rcases List.mem_cons.mp h with rfl | h
          · exact isStemChar_toLower hupper
          · exact hlater h
      · rw [if_neg hupper] at h
        rcases List.mem_cons.mp h with rfl | h
        · have hsmall : (c.isLower || c.isDigit) = true := by
            simpa [Char.isAlphanum, Char.isAlpha, hupper] using hfirst
          simp only [isStemChar, hsmall, Bool.true_or]
        · exact hlater h

theorem isFileText_fileStem {name : String} (h : IsPlain name) : IsFileText (fileStem name) := by
  intro c hc
  rw [fileStem, String.toList_ofList] at hc
  exact isFileChar_of_isStemChar (isStemChar_of_mem_snakeChars h hc)

theorem isFileText_fileName {name : String} (h : IsPlain name) : IsFileText (fileName name) := by
  exact (isFileText_fileStem h).append (by simp [IsFileText, isFileChar])

end Identifier

theorem TypeDef.isPlain_structName (type : TypeDef) : Identifier.IsPlain type.structName := by
  unfold structName
  split
  · exact Identifier.isPlain_exported _
  · exact (Identifier.isPlain_exported _).append (by simp [Identifier.IsPlain])
  · simp [Identifier.IsPlain]

end SchemaBinding
