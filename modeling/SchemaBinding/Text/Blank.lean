namespace SchemaBinding.Text

def inRanges (ranges : List (Nat × Nat)) (c : Char) : Bool :=
  ranges.any fun range => range.1 ≤ c.toNat && c.toNat ≤ range.2

/-- The code points that are white space, as closed ranges. -/
def blankRanges : List (Nat × Nat) :=
  [(0x09, 0x0D), (0x20, 0x20), (0x85, 0x85), (0xA0, 0xA0), (0x1680, 0x1680),
    (0x2000, 0x200A), (0x2028, 0x2029), (0x202F, 0x202F), (0x205F, 0x205F),
    (0x3000, 0x3000)]

def isBlank (c : Char) : Bool :=
  inRanges blankRanges c

def trimStart (text : List Char) : List Char :=
  text.dropWhile isBlank

def trimChars (text : List Char) : List Char :=
  (trimStart (trimStart text).reverse).reverse

def trim (text : String) : String :=
  String.ofList (trimChars text.toList)

def words (text : String) : List String :=
  ((text.toList.splitOnP isBlank).filter fun word => !word.isEmpty).map String.ofList

theorem trimStart_head {text rest : List Char} {c : Char}
    (h : trimStart text = c :: rest) : isBlank c = false := by
  induction text with
  | nil => simp [trimStart] at h
  | cons d tail ih =>
      cases hd : isBlank d with
      | true =>
          apply ih
          simpa [trimStart, List.dropWhile_cons, hd] using h
      | false =>
          simp [trimStart, hd] at h
          rw [← h.1]
          exact hd

theorem trimChars_getLast {text : List Char} {c : Char}
    (h : (trimChars text).getLast? = some c) : isBlank c = false := by
  rw [trimChars, List.getLast?_reverse] at h
  obtain ⟨rest, hrest⟩ := List.head?_eq_some_iff.mp h
  exact trimStart_head hrest

end SchemaBinding.Text
