import Mathlib.Data.List.Basic
import SchemaBinding.Struct.File

namespace SchemaBinding

namespace Go

def utf8 (chars : List Char) : List UInt8 :=
  chars.flatMap String.utf8EncodeChar

def backquote : Char := Char.ofNat 0x60

/-- What a raw string literal says: all that stands between the back quotes but carriage
returns. -/
def RawString (literal content : List Char) : Prop :=
  ∃ inner, literal = backquote :: inner ++ [backquote] ∧ backquote ∉ inner ∧
    content = inner.filter (· ≠ '\r')

def digit? (base : Nat) (c : Char) : Option Nat :=
  "0123456789abcdef".toList.idxOf? c.toLower |>.filter (· < base)

def number? (base : Nat) (digits : List Char) : Option Nat :=
  digits.foldlM (fun number c => (digit? base c).map (number * base + ·)) 0

def escapeLetters : List (Char × Nat) :=
  [('a', 0x07), ('b', 0x08), ('f', 0x0C), ('n', 0x0A), ('r', 0x0D), ('t', 0x09), ('v', 0x0B),
    ('\\', 0x5C), ('"', 0x22)]

/-- What follows a backslash, and the bytes it stands for. -/
inductive Escape : List Char → List UInt8 → Prop
  | letter {c : Char} {number : Nat} : (c, number) ∈ escapeLetters →
      Escape [c] [number.toUInt8]
  | octal {digits : List Char} {number : Nat} : digits.length = 3 →
      number? 8 digits = some number → number < 256 → Escape digits [number.toUInt8]
  | byte {digits : List Char} {number : Nat} : digits.length = 2 →
      number? 16 digits = some number → Escape ('x' :: digits) [number.toUInt8]
  | short {digits : List Char} {number : Nat} : digits.length = 4 →
      number? 16 digits = some number → number.isValidChar →
        Escape ('u' :: digits) (String.utf8EncodeChar (Char.ofNat number))
  | long {digits : List Char} {number : Nat} : digits.length = 8 →
      number? 16 digits = some number → number.isValidChar →
        Escape ('U' :: digits) (String.utf8EncodeChar (Char.ofNat number))

/-- What stands between double quotes, and the bytes it stands for. -/
inductive Unquotes : List Char → List UInt8 → Prop
  | nil : Unquotes [] []
  | char {c : Char} {rest : List Char} {bytes : List UInt8} : c ∉ ['"', '\\', '\n'] →
      Unquotes rest bytes → Unquotes (c :: rest) (String.utf8EncodeChar c ++ bytes)
  | escape {escaped rest : List Char} {bytes more : List UInt8} : Escape escaped bytes →
      Unquotes rest more → Unquotes ('\\' :: (escaped ++ rest)) (bytes ++ more)

/-- A literal is read as a tag with the one key, whose value has the given parts. -/
def ReadsTag (literal : String) (parts : List String) : Prop :=
  ∃ content value, RawString literal.toList content ∧
    content = "xml:\"".toList ++ value ++ ['"'] ∧
    Unquotes value (utf8 (Text.joinWith "," parts).toList) ∧ ∀ part ∈ parts, ',' ∉ part.toList

/-- The characters that mean something in a tag, or end it. -/
def tagMarks : List Char :=
  [backquote, '"', '\\', ',', '\n', '\r']

/-- A text with no character that means something in a tag. -/
def IsPlain (text : String) : Prop :=
  ∀ c ∈ text.toList, c ∉ tagMarks

instance : DecidablePred IsPlain := fun text =>
  List.decidableBAll _ text.toList

theorem utf8_append (first second : List Char) :
    utf8 (first ++ second) = utf8 first ++ utf8 second :=
  List.flatMap_append

theorem length_le_utf8 (chars : List Char) : chars.length ≤ (utf8 chars).length := by
  induction chars with
  | nil => exact Nat.le_refl _
  | cons c rest ih =>
      have hc : 0 < (String.utf8EncodeChar c).length := by
        rw [String.length_utf8EncodeChar]
        exact c.utf8Size_pos
      simp only [utf8, List.flatMap_cons, List.length_append, List.length_cons] at ih ⊢
      omega

theorem length_utf8_cons (c : Char) (rest : List Char) :
    (utf8 (c :: rest)).length = (utf8 [c]).length + (utf8 rest).length := by
  have hsplit : utf8 (c :: rest) = utf8 [c] ++ utf8 rest := utf8_append [c] rest
  rw [hsplit, List.length_append]

theorem length_utf8_filter_le (chars : List Char) (keep : Char → Bool) :
    (utf8 (chars.filter keep)).length ≤ (utf8 chars).length := by
  induction chars with
  | nil => exact Nat.le_refl _
  | cons c rest ih =>
      rw [List.filter_cons, length_utf8_cons c rest]
      split
      · rw [length_utf8_cons c]
        omega
      · omega

theorem length_utf8_filter_lt {chars : List Char} {keep : Char → Bool} {c : Char}
    (h : c ∈ chars) (hc : keep c = false) :
    (utf8 (chars.filter keep)).length < (utf8 chars).length := by
  induction chars with
  | nil => cases h
  | cons d rest ih =>
      have hd := length_le_utf8 [d]
      have hle := length_utf8_filter_le rest keep
      rw [List.length_singleton] at hd
      rw [List.filter_cons, length_utf8_cons d rest]
      rcases List.mem_cons.mp h with rfl | hmem
      · rw [if_neg (by simpa using hc)]
        omega
      · have hrest := ih hmem
        split
        · rw [length_utf8_cons d]
          omega
        · omega

theorem length_le_of_escape {escaped : List Char} {bytes : List UInt8}
    (h : Escape escaped bytes) : bytes.length ≤ escaped.length := by
  have hchar : ∀ c : Char, (String.utf8EncodeChar c).length ≤ 4 := by
    intro c
    rw [String.length_utf8EncodeChar]
    exact c.utf8Size_le_four
  cases h with
  | letter _ => exact Nat.le_refl _
  | octal hlength _ _ =>
      rw [hlength]
      exact Nat.le_add_left 1 2
  | byte hlength _ => exact Nat.le_add_left 1 _
  | short hlength _ _ =>
      rw [List.length_cons, hlength]
      exact Nat.le_succ_of_le (hchar _)
  | long hlength _ _ =>
      rw [List.length_cons, hlength]
      exact Nat.le_trans (hchar _) (by decide)

theorem Unquotes.length_le {chars : List Char} {bytes : List UInt8} (h : Unquotes chars bytes) :
    bytes.length ≤ (utf8 chars).length ∧
      (bytes.length = (utf8 chars).length → ∀ c ∈ chars, c ∉ ['"', '\\', '\n']) := by
  induction h with
  | nil => exact ⟨Nat.le_refl _, fun _ _ hmem => nomatch hmem⟩
  | @char c rest bytes hplain _ ih =>
      obtain ⟨hle, hexact⟩ := ih
      simp only [utf8, List.flatMap_cons, List.length_append] at hle hexact ⊢
      refine ⟨Nat.add_le_add_left hle _, ?_⟩
      intro heq d hd
      rcases List.mem_cons.mp hd with rfl | hmem
      · exact hplain
      · exact hexact (Nat.add_left_cancel heq) d hmem
  | @escape escaped rest bytes more hescape _ ih =>
      have hshort := length_le_of_escape hescape
      have hwide := length_le_utf8 ('\\' :: escaped)
      have hsplit : utf8 ('\\' :: (escaped ++ rest)) = utf8 ('\\' :: escaped) ++ utf8 rest :=
        utf8_append ('\\' :: escaped) rest
      rw [hsplit, List.length_append, List.length_append]
      rw [List.length_cons] at hwide
      have hle := ih.1
      exact ⟨by omega, fun heq => by omega⟩

theorem unquotes_of_plain {chars : List Char} (h : ∀ c ∈ chars, c ∉ ['"', '\\', '\n']) :
    Unquotes chars (utf8 chars) := by
  induction chars with
  | nil => exact .nil
  | cons c rest ih =>
      exact .char (h c List.mem_cons_self) (ih fun d hd => h d (List.mem_cons_of_mem _ hd))

def tagLiteral (tag : String) : String :=
  "`xml:\"" ++ tag ++ "\"`"

theorem toList_tagLiteral (tag : String) : (tagLiteral tag).toList =
    backquote :: ("xml:\"".toList ++ tag.toList ++ ['"']) ++ [backquote] := by
  have hopening : "`xml:\"".toList = backquote :: "xml:\"".toList := by decide
  have hclosing : "\"`".toList = ['"', backquote] := by decide
  rw [tagLiteral, String.toList_append, String.toList_append, hopening, hclosing]
  simp only [List.cons_append, List.append_assoc, List.nil_append]

theorem subset_joinWith (between : String) {parts : List String} {part : String}
    (h : part ∈ parts) : part.toList ⊆ (Text.joinWith between parts).toList := by
  fun_induction Text.joinWith between parts with
  | case1 => cases h
  | case2 piece =>
      rw [List.mem_singleton.mp h]
      exact List.Subset.refl _
  | case3 piece next rest ih =>
      intro c hc
      simp only [String.toList_append, List.mem_append]
      rcases List.mem_cons.mp h with rfl | hmem
      · exact .inl (.inl hc)
      · exact .inr (ih hmem hc)

theorem mem_joinWith {between : String} {parts : List String} {c : Char}
    (h : c ∈ (Text.joinWith between parts).toList) :
    c ∈ between.toList ∨ ∃ part ∈ parts, c ∈ part.toList := by
  fun_induction Text.joinWith between parts with
  | case1 => cases h
  | case2 piece => exact .inr ⟨piece, List.mem_singleton_self piece, h⟩
  | case3 piece next rest ih =>
      simp only [String.toList_append, List.mem_append] at h
      rcases h with (hpiece | hbetween) | hrest
      · exact .inr ⟨piece, List.mem_cons_self, hpiece⟩
      · exact .inl hbetween
      · rcases ih hrest with hbetween | ⟨part, hpart, hc⟩
        · exact .inl hbetween
        · exact .inr ⟨part, List.mem_cons_of_mem _ hpart, hc⟩

theorem filter_tagStart : "xml:\"".toList.filter (· ≠ '\r') = "xml:\"".toList := by decide

/-- What a tag reads back as was written without marks. -/
theorem isPlain_of_readsTag {parts : List String}
    (h : ReadsTag (tagLiteral (Text.joinWith "," parts)) parts) :
    ∀ part ∈ parts, IsPlain part := by
  obtain ⟨content, value, ⟨inner, hinner, hquote, rfl⟩, hcontent, hvalue, hcomma⟩ := h
  rw [toList_tagLiteral] at hinner
  obtain rfl := List.append_cancel_right (List.tail_eq_of_cons_eq hinner)
  rw [List.filter_append, List.filter_append, filter_tagStart] at hcontent
  obtain rfl := List.append_cancel_left (List.append_cancel_right hcontent)
  -- carriage returns and escapes would make the value shorter than the tag
  obtain ⟨hle, hexact⟩ := hvalue.length_le
  have hreturn : '\r' ∉ (Text.joinWith "," parts).toList := fun hmem =>
    absurd (length_utf8_filter_lt hmem rfl) (Nat.not_lt.mpr hle)
  rw [List.filter_eq_self.mpr fun c hc => by simpa using ne_of_mem_of_not_mem hc hreturn]
    at hexact
  intro part hpart c hc hmark
  have hmem := subset_joinWith "," hpart hc
  have hother := hexact rfl c hmem
  simp only [tagMarks, List.mem_cons, List.not_mem_nil, or_false, not_or] at hmark hother
  rcases hmark with rfl | rfl | rfl | rfl | rfl | rfl
  · exact hquote (by simp [hmem])
  · exact hother.1 rfl
  · exact hother.2.1 rfl
  · exact hcomma part hpart hc
  · exact hother.2.2 rfl
  · exact hreturn hmem

theorem notMem_of_isPlain {parts : List String} (hplain : ∀ part ∈ parts, IsPlain part) :
    ∀ c ∈ (Text.joinWith "," parts).toList, c ∉ [backquote, '"', '\\', '\n', '\r'] := by
  intro c hc
  rcases mem_joinWith hc with hcomma | ⟨part, hpart, hmem⟩
  · rw [List.mem_singleton.mp hcomma]
    decide
  · intro hmark
    apply hplain part hpart c hmem
    simp only [tagMarks, List.mem_cons, List.not_mem_nil, or_false] at hmark ⊢
    tauto

theorem readsTag_of_isPlain {parts : List String} (hplain : ∀ part ∈ parts, IsPlain part) :
    ReadsTag (tagLiteral (Text.joinWith "," parts)) parts := by
  have hchars := notMem_of_isPlain hplain
  refine ⟨_, (Text.joinWith "," parts).toList, ⟨_, toList_tagLiteral _, ?quote, rfl⟩, ?content,
    ?value, ?comma⟩
  case quote =>
    simp only [List.mem_append, not_or]
    exact ⟨⟨by decide, fun hmem => hchars backquote hmem (by decide)⟩, by decide⟩
  case content =>
    rw [List.filter_append, List.filter_append, filter_tagStart, List.filter_eq_self.mpr]
    · rfl
    · intro c hc
      simpa using ne_of_mem_of_not_mem hc fun hmem => hchars '\r' hmem (by decide)
  case value =>
    apply unquotes_of_plain
    intro c hc hmark
    apply hchars c hc
    simp only [List.mem_cons, List.not_mem_nil, or_false] at hmark ⊢
    tauto
  case comma =>
    intro part hpart hcomma
    exact hplain part hpart ',' hcomma (by decide)

theorem readsTag_tagLiteral_iff (parts : List String) :
    ReadsTag (tagLiteral (Text.joinWith "," parts)) parts ↔ ∀ part ∈ parts, IsPlain part :=
  ⟨isPlain_of_readsTag, readsTag_of_isPlain⟩

end Go

/-! Tags of fields. -/

namespace Field

def flags (isAttribute optional : Bool) : List String :=
  (if isAttribute then ["attr"] else []) ++ (if optional then ["omitempty"] else [])

theorem tagText_eq (name : String) (isAttribute optional : Bool) :
    tagText name isAttribute optional = Text.joinWith "," (name :: flags isAttribute optional) := by
  have hattr : ",attr" = "," ++ "attr" := rfl
  have homit : ",omitempty" = "," ++ "omitempty" := rfl
  cases isAttribute <;> cases optional <;>
    simp [tagText, flags, Text.joinWith, hattr, homit, String.append_assoc]

theorem isPlain_flags (isAttribute optional : Bool) :
    ∀ flag ∈ flags isAttribute optional, Go.IsPlain flag := by
  cases isAttribute <;> cases optional <;> decide

theorem readsTag_tagText_iff (name : String) (isAttribute optional : Bool) :
    Go.ReadsTag (Go.tagLiteral (tagText name isAttribute optional))
      (name :: flags isAttribute optional) ↔ Go.IsPlain name := by
  rw [tagText_eq, Go.readsTag_tagLiteral_iff, List.forall_mem_cons]
  exact and_iff_left (isPlain_flags isAttribute optional)

theorem readsTag_ofText (text : TextContent) :
    Go.ReadsTag (Go.tagLiteral (ofText text).tag) ["", "chardata"] := by
  have htag : (ofText text).tag = Text.joinWith "," ["", "chardata"] := rfl
  rw [htag, Go.readsTag_tagLiteral_iff]
  decide

end Field

namespace StructFile

theorem exists_fieldLine_eq (nameWidth typeWidth : Nat) (field : Field) :
    ∃ before, fieldLine nameWidth typeWidth field = before ++ Go.tagLiteral field.tag := by
  have hopening : " `xml:\"" = " " ++ "`xml:\"" := rfl
  refine ⟨"\t" ++ pad nameWidth field.name ++ " " ++ pad typeWidth field.typeText ++ " ", ?_⟩
  simp only [fieldLine, Go.tagLiteral, hopening, String.append_assoc]

theorem exists_line {file : StructFile} {field : Field} (h : field ∈ file.fields) :
    ∃ before, before ++ Go.tagLiteral field.tag ∈ file.lines := by
  obtain ⟨before, hline⟩ := exists_fieldLine_eq (columnWidth (file.fields.map Field.name))
    (columnWidth (file.fields.map Field.typeText)) field
  have hbody : before ++ Go.tagLiteral field.tag ∈ fieldLines file.fields := by
    apply List.mem_flatMap.mpr
    exact ⟨field, h, List.mem_append_right _ (List.mem_singleton.mpr hline.symm)⟩
  have hsome : (file.base.isNone && file.fields.isEmpty) = false := by
    simp [List.ne_nil_of_mem h]
  refine ⟨before, List.mem_append_right _ ?_⟩
  simp only [bodyLines, hsome, Bool.false_eq_true, if_false, List.mem_append, List.mem_cons]
  exact .inl (.inr hbody)

end StructFile

end SchemaBinding
