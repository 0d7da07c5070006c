import SchemaBinding.Proofs.Path
import SchemaBinding.Proofs.Struct.Paired
import Mathlib

namespace SchemaBinding

namespace Text

/-- Two slashes after one tab at most, and whatever follows them. -/
def isComment (line : List Char) : Bool :=
  "//".toList.isPrefixOf line || "\t//".toList.isPrefixOf line

/-- A text without those lines after its first one that are comments. -/
def withoutComments (text : String) : String :=
  match text.toList.splitOn '\n' with
  | [] => text
  | first :: rest =>
      String.ofList (['\n'].intercalate (first :: rest.filter fun line => !isComment line))

theorem isComment_cons {c : Char} (hslash : '/' ≠ c) (htab : '\t' ≠ c) (rest : List Char) :
    isComment (c :: rest) = false := by
  simp [isComment, List.isPrefixOf, hslash, htab]

theorem isComment_tab_cons {c : Char} (hslash : '/' ≠ c) (rest : List Char) :
    isComment ('\t' :: c :: rest) = false := by
  simp [isComment, List.isPrefixOf, hslash]

def ofLines (lines : List String) : String :=
  String.join (lines.map fun line => line ++ "\n")

theorem splitOn_ofLines {lines : List String} (h : ∀ line ∈ lines, '\n' ∉ line.toList) :
    (ofLines lines).toList.splitOn '\n' = lines.map String.toList ++ [[]] := by
  induction lines with
  | nil => rfl
  | cons line rest ih =>
      have hline := h line List.mem_cons_self
      have hrest := ih fun other hother => h other (List.mem_cons_of_mem line hother)
      have hsplit : (ofLines (line :: rest)).toList =
          line.toList ++ '\n' :: (ofLines rest).toList := by
        simp [ofLines, String.toList_join]
      rw [hsplit, List.splitOn_append_cons_self_of_not_mem hline, hrest]
      rfl

theorem intercalate_lines {lines : List String} (h : ∀ line ∈ lines, '\n' ∉ line.toList) :
    String.ofList (['\n'].intercalate (lines.map String.toList ++ [[]])) = ofLines lines := by
  rw [← splitOn_ofLines h, List.intercalate_splitOn, String.ofList_toList]

theorem withoutComments_ofLines {first : String} {rest : List String}
    (h : ∀ line ∈ first :: rest, '\n' ∉ line.toList) :
    withoutComments (ofLines (first :: rest)) =
      ofLines (first :: rest.filter fun line => !isComment line.toList) := by
  have hkept : ∀ line ∈ first :: rest.filter (fun line => !isComment line.toList),
      '\n' ∉ line.toList := by
    intro line hline
    rcases List.mem_cons.mp hline with rfl | hmem
    · exact h line List.mem_cons_self
    · exact h line (List.mem_cons_of_mem first (List.mem_of_mem_filter hmem))
  rw [withoutComments, splitOn_ofLines h, ← intercalate_lines hkept]
  simp only [List.map_cons, List.cons_append, List.filter_append, List.filter_map]
  rfl

theorem not_mem_of_mem_lines {text line : String} (h : line ∈ lines text) :
    '\n' ∉ line.toList := by
  obtain ⟨piece, hpiece, rfl⟩ := List.mem_map.mp h
  have hmem : piece ∈ text.toList.splitOnP (· == '\n') := by
    split at hpiece
    · exact List.dropLast_subset _ hpiece
    · exact hpiece
  rw [← List.splitOn_eq_splitOnP] at hmem
  rw [String.toList_ofList]
  exact not_mem_of_mem_splitOn hmem

theorem mem_of_mem_trim {text : String} {c : Char} (h : c ∈ (trim text).toList) :
    c ∈ text.toList := by
  rw [trim, String.toList_ofList, trimChars, List.mem_reverse] at h
  have hmem := List.mem_reverse.mp (List.dropWhile_subset _ h)
  exact List.dropWhile_subset _ hmem

theorem exists_of_mem_toDigits {base number : Nat} (hbase : 1 < base) {c : Char}
    (h : c ∈ Nat.toDigits base number) : ∃ digit < base, c = Nat.digitChar digit := by
  induction number using Nat.strongRecOn with
  | ind number ih =>
      rw [Nat.toDigits_eq_if hbase] at h
      split at h
      case isTrue hlt => exact ⟨number, hlt, List.mem_singleton.mp h⟩
      case isFalse hle =>
          rcases List.mem_append.mp h with hmem | hmem
          · exact ih _ (Nat.div_lt_self (by omega) hbase) hmem
          · exact ⟨_, Nat.mod_lt number (by omega), List.mem_singleton.mp hmem⟩

theorem lineFeed_notMem_hexDigits (number : Nat) : '\n' ∉ hexDigits number := by
  have hdigits : ∀ digit < 16, '\n' ≠ Nat.digitChar digit := by decide
  intro hmem
  obtain ⟨digit, hlt, heq⟩ := exists_of_mem_toDigits (by decide) hmem
  exact hdigits digit hlt heq

theorem lineFeed_notMem_escapeChar (c : Char) : '\n' ∉ escapeChar c := by
  unfold escapeChar
  split
  case h_7 hfeed _ _ =>
      split
      · simpa using lineFeed_notMem_hexDigits c.toNat
      · simpa [eq_comm] using hfeed
  all_goals decide

theorem lineFeed_notMem_quoted (text : String) : '\n' ∉ (quoted text).toList := by
  rw [quoted, String.toList_ofList]
  simp [lineFeed_notMem_escapeChar]

end Text

namespace Identifier

/-- A text of letters, digits and underscores. Letters and digits may stand outside ASCII, and
whatever does counts as one. -/
structure IsWord (name : String) : Prop where
  nonempty : name.toList ≠ []
  chars : (name.toList.all fun c => isPart c || 128 ≤ c.toNat) = true

instance (name : String) : Decidable (IsWord name) :=
  decidable_of_iff _ ⟨fun ⟨hnonempty, hchars⟩ => ⟨hnonempty, hchars⟩, fun h => And.intro h.1 h.2⟩

theorem IsWord.notMem {name : String} (h : IsWord name) {c : Char}
    (hc : (isPart c || 128 ≤ c.toNat) = false) : c ∉ name.toList := by
  intro hmem
  have hc' := List.all_eq_true.mp h.chars c hmem
  rw [hc] at hc'
  cases hc'

theorem IsWord.lineFeed_notMem {name : String} (h : IsWord name) : '\n' ∉ name.toList :=
  h.notMem (by decide)

theorem IsWord.isComment_eq_false {name : String} (h : IsWord name) (rest : List Char) :
    Text.isComment (name.toList ++ rest) = false ∧
      Text.isComment ('\t' :: (name.toList ++ rest)) = false := by
  have hslash : '/' ∉ name.toList := h.notMem (by decide)
  have htab : '\t' ∉ name.toList := h.notMem (by decide)
  obtain ⟨c, tail, hname⟩ := List.exists_cons_of_ne_nil h.nonempty
  rw [hname, List.mem_cons, not_or] at hslash htab
  rw [hname]
  exact ⟨Text.isComment_cons hslash.1 htab.1 _, Text.isComment_tab_cons hslash.1 _⟩

end Identifier

namespace StructFile

/-- Names are identifiers, and what is written as it is has no line feed. A path is quoted. -/
structure Legible (file : StructFile) : Prop where
  package : Identifier.IsWord file.package
  imports : ∀ entry ∈ file.imports, Identifier.IsWord entry.1
  name : Identifier.IsWord file.name
  base : ∀ base ∈ file.base, Identifier.IsWord base.name ∧
    ∀ package ∈ base.package, Identifier.IsWord package
  fields : ∀ field ∈ file.fields, Identifier.IsWord field.name ∧
    '\n' ∉ field.type.text.toList ∧ '\n' ∉ field.tag.toList

/-- A line of its own that is no comment. -/
structure IsCode (line : String) : Prop where
  lineFeed : '\n' ∉ line.toList
  comment : Text.isComment line.toList = false

/-- A line of its own that is a comment. -/
structure IsNote (line : String) : Prop where
  lineFeed : '\n' ∉ line.toList
  comment : Text.isComment line.toList = true

theorem isNote_of_mem_commentLines {indent : String} (hindent : indent = "" ∨ indent = "\t")
    {documentation : List String} {line : String}
    (h : line ∈ commentLines indent documentation) : IsNote line := by
  obtain ⟨written, hwritten, rfl⟩ := List.mem_map.mp h
  obtain ⟨text, _, hline⟩ := List.mem_flatMap.mp hwritten
  have hfeed : '\n' ∉ (Text.trim written).toList := fun hmem =>
    Text.not_mem_of_mem_lines hline (Text.mem_of_mem_trim hmem)
  unfold commentLine
  rcases hindent with rfl | rfl
  all_goals
    split
    · exact ⟨by decide, by decide⟩
    · exact ⟨by simpa using hfeed, by simp [Text.isComment]⟩

theorem isCode_importLine {entry : String × String}
    (h : Identifier.IsWord entry.1) : IsCode (importLine entry) := by
  have hquoted := Text.lineFeed_notMem_quoted entry.2
  unfold importLine
  split
  · refine ⟨by simpa using hquoted, ?_⟩
    simp [Text.quoted, Text.isComment_tab_cons]
  · refine ⟨by simpa [h.lineFeed_notMem] using hquoted, ?_⟩
    simpa using (h.isComment_eq_false (' ' :: (Text.quoted entry.2).toList)).2

theorem lineFeed_notMem_pad {width : Nat} {cell : String} (h : '\n' ∉ cell.toList) :
    '\n' ∉ (pad width cell).toList := by
  simp [pad, h]

theorem isCode_fieldLine {field : Field} (hname : Identifier.IsWord field.name)
    (htype : '\n' ∉ field.type.text.toList) (htag : '\n' ∉ field.tag.toList)
    (nameWidth typeWidth : Nat) : IsCode (fieldLine nameWidth typeWidth field) := by
  have htypeText : '\n' ∉ field.typeText.toList := by
    unfold Field.typeText
    split_ifs <;> simpa using htype
  constructor
  case lineFeed =>
      simp [fieldLine, lineFeed_notMem_pad (hname.lineFeed_notMem),
        lineFeed_notMem_pad htypeText, htag]
  case comment =>
      simpa [fieldLine, pad] using (hname.isComment_eq_false _).2

theorem isCode_base {base : GoType} (hname : Identifier.IsWord base.name)
    (hpackage : ∀ package ∈ base.package, Identifier.IsWord package) :
    IsCode ("\t" ++ base.text) := by
  obtain ⟨package?, name⟩ := base
  have hfeed := hname.lineFeed_notMem
  cases package? with
  | none =>
      refine ⟨by simpa [GoType.text] using hfeed, ?_⟩
      simpa [GoType.text] using (hname.isComment_eq_false []).2
  | some package =>
      have hword := hpackage package rfl
      refine ⟨by simpa [GoType.text, hword.lineFeed_notMem] using hfeed, ?_⟩
      simpa [GoType.text] using (hword.isComment_eq_false ('.' :: name.toList)).2

/-! What is left without comments. -/

/-- Lines of their own, of which those that are no comments are the given ones. -/
structure Strips (lines code : List String) : Prop where
  lineFeed : ∀ line ∈ lines, '\n' ∉ line.toList
  filter : lines.filter (fun line => !Text.isComment line.toList) = code

namespace Strips

theorem append {lines more code others : List String} (h : Strips lines code)
    (h' : Strips more others) : Strips (lines ++ more) (code ++ others) where
  lineFeed line hline := (List.mem_append.mp hline).elim (h.lineFeed line) (h'.lineFeed line)
  filter := by rw [List.filter_append, h.filter, h'.filter]

theorem code {lines : List String} (h : ∀ line ∈ lines, IsCode line) : Strips lines lines where
  lineFeed line hline := (h line hline).lineFeed
  filter := by
    rw [List.filter_eq_self]
    intro line hline
    rw [(h line hline).comment, Bool.not_false]

theorem line {line : String} (h : IsCode line) : Strips [line] [line] :=
  code fun _ hmem => List.mem_singleton.mp hmem ▸ h

theorem commentLines {indent : String} (hindent : indent = "" ∨ indent = "\t")
    (documentation : List String) : Strips (commentLines indent documentation) [] where
  lineFeed _ hline := (isNote_of_mem_commentLines hindent hline).lineFeed
  filter := by
    rw [List.filter_eq_nil_iff]
    intro line hline
    simp [(isNote_of_mem_commentLines hindent hline).comment]

theorem fields {fields : List Field} (nameWidth typeWidth : Nat)
    (h : ∀ field ∈ fields, IsCode (fieldLine nameWidth typeWidth field)) :
    Strips
      (fields.flatMap fun field =>
        StructFile.commentLines "\t" field.documentation ++ [fieldLine nameWidth typeWidth field])
      (fields.map (fieldLine nameWidth typeWidth)) := by
  induction fields with
  | nil => exact code fun _ hmem => nomatch hmem
  | cons field rest ih =>
      rw [List.flatMap_cons, List.map_cons]
      have hfirst := (commentLines (.inr rfl) field.documentation).append
        (line (h field List.mem_cons_self))
      exact hfirst.append (ih fun other hother => h other (List.mem_cons_of_mem field hother))

end Strips

/-- The widths of the columns do not depend on the documentation. -/
theorem fieldLines_undocumented (fields : List Field) :
    fieldLines (fields.map Field.undocumented) =
      fields.map (fieldLine (columnWidth (fields.map Field.name))
        (columnWidth (fields.map Field.typeText))) := by
  rw [fieldLines, List.map_map, List.map_map, List.flatMap_map]
  exact List.map_eq_flatMap.symm

namespace Legible

variable {file : StructFile} (h : file.Legible)

include h

theorem isCode_importLines : ∀ line ∈ importLines file.imports, IsCode line := by
  intro line hline
  unfold importLines at hline
  split at hline
  case isTrue => cases hline
  case isFalse =>
      simp only [List.cons_append, List.mem_cons, List.mem_append, List.mem_map,
        List.not_mem_nil, or_false] at hline
      rcases hline with rfl | rfl | ⟨entry, hentry, rfl⟩ | rfl
      · exact ⟨by decide, by decide⟩
      · exact ⟨by decide, by decide⟩
      · refine isCode_importLine (h.imports entry ?_)
        simpa [sortedImports] using hentry
      · exact ⟨by decide, by decide⟩

/-- A line that begins with a word and names the package or the struct. -/
theorem isCode_clause : IsCode ("package " ++ file.package) := by
  refine ⟨by simpa using h.package.lineFeed_notMem, ?_⟩
  simp [Text.isComment_cons]

theorem isCode_opening (closing : String) (hclosing : '\n' ∉ closing.toList) :
    IsCode ("type " ++ file.name ++ closing) := by
  refine ⟨by simpa [hclosing] using h.name.lineFeed_notMem, ?_⟩
  simp [Text.isComment_cons]

theorem strips_bodyLines : Strips file.bodyLines file.undocumented.bodyLines := by
  unfold bodyLines
  have hempty : file.undocumented.fields.isEmpty = file.fields.isEmpty := by
    simp [undocumented]
  have hbase : file.undocumented.base = file.base := rfl
  rw [hempty, hbase]
  split
  case isTrue => exact .line (h.isCode_opening _ (by decide))
  case isFalse =>
      have hopening := h.isCode_opening " struct \x7b" (by decide)
      have hembedded : ∀ line ∈ file.base.toList.map (fun base => "\t" ++ base.text),
          IsCode line := by
        intro line hline
        obtain ⟨base, hmem, rfl⟩ := List.mem_map.mp hline
        obtain ⟨hname, hpackage⟩ := h.base base (Option.mem_toList.mp hmem)
        exact isCode_base hname hpackage
      have hfields : ∀ field ∈ file.fields, ∀ nameWidth typeWidth,
          IsCode (fieldLine nameWidth typeWidth field) := by
        intro field hfield
        obtain ⟨hname, htype, htag⟩ := h.fields field hfield
        exact isCode_fieldLine hname htype htag
      have hstart : ∀ line ∈ ("type " ++ file.name ++ " struct \x7b") ::
          file.base.toList.map (fun base => "\t" ++ base.text), IsCode line := by
        intro line hline
        rcases List.mem_cons.mp hline with rfl | hmem
        · exact hopening
        · exact hembedded line hmem
      rw [undocumented, fieldLines_undocumented]
      exact ((Strips.code hstart).append (.fields _ _ fun field hfield =>
        hfields field hfield _ _)).append (.line ⟨by decide, by decide⟩)

end Legible

/-- The file without its comments is that of the struct without its documentation. -/
theorem withoutComments_text (file : StructFile) (h : file.Legible) :
    Text.withoutComments file.text = file.undocumented.text := by
  have hclauses : ∀ line ∈ "" :: ("package " ++ file.package) ::
      (importLines file.imports ++ [""]), IsCode line := by
    intro line hline
    simp only [List.mem_cons, List.mem_append, List.not_mem_nil, or_false] at hline
    rcases hline with rfl | rfl | himport | rfl
    · exact ⟨by decide, by decide⟩
    · exact h.isCode_clause
    · exact h.isCode_importLines line himport
    · exact ⟨by decide, by decide⟩
  have hrest := ((Strips.code hclauses).append
    (.commentLines (.inl rfl) file.documentation)).append h.strips_bodyLines
  have hlines : ∀ line ∈ file.lines, '\n' ∉ line.toList := by
    intro line hline
    rcases List.mem_cons.mp hline with rfl | hmem
    · decide
    · exact hrest.lineFeed line (by simpa using hmem)
  calc Text.withoutComments file.text
    _ = Text.ofLines (header :: _) := Text.withoutComments_ofLines hlines
    _ = file.undocumented.text :=
      congrArg (fun rest => Text.ofLines (header :: rest)) hrest.filter

def annotatedSample : StructFile where
  package := "shop"
  imports := [("b", "b"), ("v1", "a\"// b")]
  name := "Item"
  documentation := ["", "\r\ntype Item struct \x7b\n\tb.Base // c\n\n", "//\t"]
  base := some ⟨some "b", "Base"⟩
  fields := [
    { name := "Größe", type := .builtin "string", tag := "sku,attr",
      documentation := ["Größe string\n\x7d\r", " \t"] },
    { name := "Parts", type := ⟨some "v1", "Part"⟩, isArray := true, tag := "part // c",
      documentation := [] }]

theorem withoutComments_text_annotated :
    annotatedSample.Legible ∧
      Text.withoutComments annotatedSample.text = annotatedSample.undocumented.text := by
  have h : annotatedSample.Legible := by
    constructor <;> decide
  exact ⟨h, withoutComments_text annotatedSample h⟩

end StructFile

end SchemaBinding
