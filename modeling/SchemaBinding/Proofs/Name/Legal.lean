import SchemaBinding.Options.Basic
import SchemaBinding.Proofs.Emission.FreeFile
import SchemaBinding.Proofs.Outcome

namespace SchemaBinding

namespace Identifier

/-- A capital, then letters and digits. -/
def IsExported (name : String) : Prop :=
  ∃ first rest, name.toList = first :: rest ∧ first.isUpper = true ∧
    ∀ c ∈ rest, c.isAlphanum = true

theorem isUpper_toUpper {c : Char} (h : c.isAlphanum = true) (hdigit : c.isDigit = false) :
    c.toUpper.isUpper = true := by
  rw [Char.isUpper_toUpper_eq_isAlpha]
  simpa [Char.isAlphanum, hdigit] using h

theorem head_exportChars {text rest : List Char} {first : Char}
    (h : exportChars true text = first :: rest) :
    first.isDigit = true ∨ first.isUpper = true := by
  induction text with
  | nil => cases h
  | cons c text ih =>
      rw [exportChars] at h
      split at h
      case isTrue => exact ih h
      case isFalse =>
          split at h
          case isFalse => exact ih h
          case isTrue halphanum =>
              obtain ⟨hfirst, _⟩ := List.cons.inj h
              rw [if_pos rfl] at hfirst
              subst hfirst
              by_cases hdigit : c.isDigit = true
              · rw [Char.toUpper_eq_of_not_isLower (by simp [not_isLower_of_isDigit hdigit])]
                exact .inl hdigit
              · exact .inr (isUpper_toUpper halphanum (by simpa using hdigit))

theorem isExported_exported (name : String) : IsExported (exported name) := by
  unfold exported
  split
  case h_1 => simp [IsExported]
  case h_2 first rest hchars =>
      have hplain : ∀ c ∈ first :: rest, c.isAlphanum = true := by
        intro c hc
        rw [← hchars] at hc
        exact isAlphanum_of_mem_exportChars hc
      split
      case isTrue => exact ⟨'X', first :: rest, String.toList_ofList, by decide, hplain⟩
      case isFalse hdigit =>
          have hcapital := (head_exportChars hchars).resolve_left hdigit
          refine ⟨first, rest, String.toList_ofList, hcapital, ?_⟩
          intro c hc
          exact hplain c (List.mem_cons_of_mem first hc)

theorem IsExported.append {first second : String} (hfirst : IsExported first)
    (hsecond : IsPlain second) : IsExported (first ++ second) := by
  obtain ⟨capital, rest, heq, hcapital, hrest⟩ := hfirst
  refine ⟨capital, rest ++ second.toList, by rw [String.toList_append, heq]; rfl, hcapital, ?_⟩
  intro c hc
  rcases List.mem_append.mp hc with h | h
  · exact hrest c h
  · exact hsecond c h

theorem IsExported.isPlain {name : String} (h : IsExported name) : IsPlain name := by
  obtain ⟨capital, rest, heq, hcapital, hrest⟩ := h
  intro c hc
  rw [heq] at hc
  rcases List.mem_cons.mp hc with rfl | hmem
  · simp [Char.isAlphanum, Char.isAlpha, hcapital]
  · exact hrest c hmem

theorem isPart_of_isAlphanum {c : Char} (h : c.isAlphanum = true) : isPart c = true :=
  (Bool.or_eq_true _ _).mpr (.inl h)

theorem isAlphanum_toLower {c : Char} (h : c.isAlphanum = true) :
    c.toLower.isAlphanum = true := by
  rw [Char.isAlphanum, Bool.or_eq_true] at h ⊢
  rcases h with halpha | hdigit
  · rw [Char.isAlpha_toLower_eq_isAlpha]
    exact .inl halpha
  · rw [Char.toLower_eq_of_not_isUpper (by simp [not_isUpper_of_isDigit hdigit])]
    exact .inr hdigit

theorem isAlphanum_of_mem_packageChars {segment : List Char} {c : Char}
    (h : c ∈ packageChars segment) : c.isAlphanum = true := by
  obtain ⟨letter, hletter, rfl⟩ := List.mem_map.mp h
  exact isAlphanum_toLower (List.mem_filter.mp hletter).2

theorem not_keyword_ns (name : String) : ("ns" ++ name) ∉ keywords := by
  intro h
  have hstarts : "ns".toList <+: ("ns" ++ name).toList := by
    rw [String.toList_append]
    exact List.prefix_append _ _
  have hnone : ∀ keyword ∈ keywords, ¬ "ns".toList <+: keyword.toList := by decide +kernel
  exact hnone _ h hstarts

theorem isPackage_ns {name : String} (h : IsPlain name) : isPackage ("ns" ++ name) = true := by
  have hparts : ("s".toList ++ name.toList).all isPart = true := by
    rw [List.all_append, Bool.and_eq_true]
    exact ⟨by decide, List.all_eq_true.mpr fun c hc => isPart_of_isAlphanum (h c hc)⟩
  have hvalid : isValid ("ns" ++ name) = true := by
    rw [isValid, String.toList_append]
    exact hparts
  simp [isPackage, hvalid, not_keyword_ns]

theorem isPackage_packageOf (space : String) : isPackage (packageOf space) = true := by
  unfold packageOf
  split
  case h_1 => decide +kernel
  case h_2 => decide +kernel
  case h_3 first rest hfound =>
      have hplain : ∀ c ∈ first :: rest, c.isAlphanum = true := by
        have hmem := List.mem_of_find?_eq_some hfound
        obtain ⟨segment, _, heq⟩ := List.mem_map.mp hmem
        intro c hc
        rw [← heq] at hc
        exact isAlphanum_of_mem_packageChars hc
      simp only
      split
      case isTrue =>
          apply isPackage_ns
          intro c hc
          rw [String.toList_ofList] at hc
          exact hplain c hc
      case isFalse husable =>
          simp only [Bool.or_eq_true, not_or] at husable
          have hstart : isStart first = true := by
            have hfirst := hplain first List.mem_cons_self
            rw [Char.isAlphanum, Bool.or_eq_true] at hfirst
            exact (Bool.or_eq_true _ _).mpr (.inl (hfirst.resolve_right husable.1))
          have hparts : rest.all isPart = true := by
            apply List.all_eq_true.mpr
            intro c hc
            exact isPart_of_isAlphanum (hplain c (List.mem_cons_of_mem first hc))
          simp only [isPackage, isValid, String.toList_ofList, hstart, hparts, Bool.and_true,
            Bool.true_and, Bool.not_eq_eq_eq_not, Bool.not_true]
          simpa using husable.2

/-- A small letter, then small letters, digits and underscores, then `.go`. -/
def IsFileName (file : String) : Prop :=
  ∃ first rest, file.toList = first :: (rest ++ ".go".toList) ∧ first.isLower = true ∧
    ∀ c ∈ rest, isStemChar c = true

theorem exists_fileStem {name : String} (h : IsExported name) :
    ∃ first rest, (fileStem name).toList = first :: rest ∧ first.isLower = true ∧
      ∀ c ∈ rest, isStemChar c = true := by
  have hplain := h.isPlain
  obtain ⟨capital, rest, heq, hcapital, hrest⟩ := h
  refine ⟨capital.toLower, snakeChars (some capital) rest, ?_, ?_, ?_⟩
  · rw [fileStem, String.toList_ofList, heq, snakeChars, if_pos hcapital]
    rfl
  · simp [Char.isLower_toLower_eq_isAlpha, Char.isAlpha, hcapital]
  · intro c hc
    exact isStemChar_of_mem_snakeChars hrest hc

theorem isFileName_fileName {name : String} (h : IsExported name) :
    IsFileName (fileName name) := by
  obtain ⟨first, rest, heq, hfirst, hrest⟩ := exists_fileStem h
  exact ⟨first, rest, by rw [fileName, String.toList_append, heq]; rfl, hfirst, hrest⟩

end Identifier

theorem TypeDef.isExported_structName (type : TypeDef) :
    Identifier.IsExported type.structName := by
  unfold structName
  split
  · exact Identifier.isExported_exported _
  · exact (Identifier.isExported_exported _).append (by simp [Identifier.IsPlain])
  · simp [Identifier.IsExported]

namespace Works

theorem isFileName_numberedFile {name : String} (h : Identifier.IsExported name) (number : Nat) :
    Identifier.IsFileName (numberedFile (Identifier.fileStem name) number) := by
  obtain ⟨first, rest, heq, hfirst, hrest⟩ := Identifier.exists_fileStem h
  refine ⟨first, rest ++ ("_".toList ++ (toString number).toList), ?_, hfirst, ?_⟩
  · simp only [numberedFile, String.toList_append, heq, List.cons_append, List.append_assoc]
  · intro c hc
    simp only [List.mem_append] at hc
    rcases hc with hstem | hscore | hdigit
    · exact hrest c hstem
    · rw [List.mem_singleton.mp hscore]
      rfl
    · rw [Nat.toString_eq_repr, Nat.toList_repr] at hdigit
      have hdigit : c.isDigit = true :=
        Nat.isDigit_of_mem_toDigits (by decide) (by decide) hdigit
      simp [Identifier.isStemChar, hdigit]

theorem isFileName_freeFile (files : List (String × String)) (package : String) {name : String}
    (h : Identifier.IsExported name) : Identifier.IsFileName (freeFile files package name) := by
  rcases List.mem_cons.mp (freeFile_spec files package name).1 with heq | hnumbered
  · rw [heq]
    exact Identifier.isFileName_fileName h
  · obtain ⟨index, _, heq⟩ := List.mem_map.mp hnumbered
    rw [← heq]
    exact isFileName_numberedFile h (index + 2)

end Works

/-! The packages that options give. -/

namespace Options

variable {options : Options}

theorem checkPackage_eq_ok_iff {fault : OptionFault} {package : String} :
    checkPackage fault package = .ok () ↔ Identifier.isPackage package = true := by
  unfold checkPackage
  split <;> simp [*]

theorem isPackage_of_get? {packages : Table String String} {space package : String}
    (hvalid : checkNamespacePackages packages = .ok ())
    (h : packages.get? space = some package) : Identifier.isPackage package = true := by
  induction packages with
  | nil => cases h
  | cons entry rest ih =>
      simp only [checkNamespacePackages, bind_eq_ok_iff] at hvalid
      obtain ⟨_, hfirst, hrest⟩ := hvalid
      rw [Table.get?] at h
      split at h
      · cases h
        exact checkPackage_eq_ok_iff.mp hfirst
      · exact ih hrest h

theorem isPackage_packageFor (hvalid : options.validate = .ok ()) (space : Option String) :
    Identifier.isPackage (options.packageFor space) = true := by
  simp only [validate, bind_eq_ok_iff] at hvalid
  obtain ⟨_, hpackage, _, hpackages, _⟩ := hvalid
  cases space with
  | none => exact checkPackage_eq_ok_iff.mp hpackage
  | some space =>
      simp only [packageFor]
      split
      case h_1 package hfound => exact isPackage_of_get? hpackages hfound
      case h_2 => exact Identifier.isPackage_packageOf space

end Options

end SchemaBinding
