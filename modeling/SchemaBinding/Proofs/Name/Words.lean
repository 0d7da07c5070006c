import SchemaBinding.Name.Identifier
import SchemaBinding.Text.Pieces

namespace SchemaBinding.Identifier

/-- The letters and digits of some names, in each of which words begin anew. -/
def wordChars (names : List String) : List Char :=
  names.flatMap fun name => exportChars true name.toList

/-- An identifier begins with no digit and is not empty. -/
def started : List Char → List Char
  | [] => ['X']
  | c :: rest => if c.isDigit then 'X' :: c :: rest else c :: rest

theorem exported_eq (name : String) :
    exported name = String.ofList (started (exportChars true name.toList)) := by
  rw [exported]
  cases exportChars true name.toList <;> rfl

theorem exportChars_append_underscore (raised : Bool) (before after : List Char) :
    exportChars raised (before ++ '_' :: after) =
      exportChars raised before ++ exportChars true after := by
  induction before generalizing raised with
  | nil => rfl
  | cons c rest ih =>
      rw [List.cons_append, exportChars, exportChars]
      split
      · exact ih true
      · split
        · rw [ih false]
          rfl
        · exact ih raised

theorem exportChars_joinWith (names : List String) :
    exportChars true (Text.joinWith "_" names).toList = wordChars names := by
  fun_induction Text.joinWith "_" names with
  | case1 => rfl
  | case2 name => exact (List.append_nil _).symm
  | case3 name next rest ih =>
      have hmark : "_".toList = ['_'] := rfl
      rw [String.toList_append, String.toList_append, hmark, List.append_assoc,
        List.singleton_append, exportChars_append_underscore, ih]
      rfl

theorem started_append {first : List Char} (rest : List Char) (h : first ≠ []) :
    started (first ++ rest) = started first ++ rest := by
  obtain ⟨c, more, rfl⟩ := List.exists_cons_of_ne_nil h
  simp only [List.cons_append, started]
  split <;> rfl

theorem started_ne_nil (chars : List Char) : started chars ≠ [] := by
  cases chars with
  | nil => exact List.cons_ne_nil _ _
  | cons c rest =>
      rw [started]
      split <;> exact List.cons_ne_nil _ _

/-- If words in front make no difference, they are the `X` that stands for none. -/
theorem started_eq_of_nil_append {first rest : List Char}
    (h : started rest = started (first ++ rest)) : started [] = started first := by
  by_cases hfirst : first = []
  · rw [hfirst]
  · rw [started_append rest hfirst] at h
    cases rest with
    | nil => rwa [List.append_nil] at h
    | cons c rest =>
        rw [started] at h
        split at h
        case isTrue =>
            have hsplit : ['X'] ++ c :: rest = started first ++ c :: rest := h
            exact List.append_cancel_right hsplit
        case isFalse => exact absurd (List.self_eq_append_left.mp h) (started_ne_nil first)

theorem started_eq_of_append {first other rest : List Char}
    (h : started (first ++ rest) = started (other ++ rest)) : started first = started other := by
  by_cases hfirst : first = []
  · subst hfirst
    exact started_eq_of_nil_append h
  · by_cases hother : other = []
    · subst hother
      exact (started_eq_of_nil_append h.symm).symm
    · rw [started_append rest hfirst, started_append rest hother] at h
      exact List.append_cancel_right h

end SchemaBinding.Identifier
