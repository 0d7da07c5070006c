import Mathlib.Data.List.Induction
import SchemaBinding.Proofs.Component.Provenance
import SchemaBinding.Xml.Document

namespace SchemaBinding.Xml

abbrev Tag := List (RawName × String)

/-- The default namespaces that a tag declares. A well-formed tag has one at most. -/
def Tag.defaults (tag : Tag) : List String :=
  tag.filterMap fun (name, value) =>
    if name.short ≠ "xmlns" ∧ name.localName = "xmlns" then some value else none

/-- What the default namespace is within some tags, the innermost of them first. -/
inductive InEffect : List Tag → Option String → Prop
  | undeclared : InEffect [] none
  | declared {tag : Tag} {outer : List Tag} {space : String} : space ∈ tag.defaults →
      InEffect (tag :: outer) (some space)
  | inherited {tag : Tag} {outer : List Tag} {space : Option String} : tag.defaults = [] →
      InEffect outer space → InEffect (tag :: outer) space

def nest (tags : List Tag) : Token → List Tag
  | .opening _ tag closed _ _ => if closed then tags else tag :: tags
  | .closing _ _ => tags.tail
  | _ => tags

/-- The tags that are open after some tokens, the innermost first. -/
def openTags (tokens : List Token) : List Tag :=
  tokens.foldl nest []

theorem openTags_append_singleton (tokens : List Token) (token : Token) :
    openTags (tokens ++ [token]) = nest (openTags tokens) token := by
  rw [openTags, List.foldl_append]
  rfl

/-- An element begins with one of the tokens, and stands within some tags, its own the first. -/
def Element.StandsIn (element : Element) (tokens : List Token) (tags : List Tag) : Prop :=
  ∃ before name tag closed start stop after,
    tokens = before ++ .opening name tag closed start stop :: after ∧
      element.start = start ∧ element.tag = name.localName ∧
      (∀ key value, (key, value) ∈ element.attributes → (⟨"", key⟩, value) ∈ tag) ∧
      tags = tag :: openTags before

theorem Element.StandsIn.append {element : Element} {tokens : List Token} {tags : List Tag}
    (h : element.StandsIn tokens tags) (more : List Token) :
    element.StandsIn (tokens ++ more) tags := by
  obtain ⟨before, name, tag, closed, start, stop, after, rfl, hrest⟩ := h
  exact ⟨before, name, tag, closed, start, stop, after ++ more, by simp, hrest⟩

/-! Scopes. -/

namespace Scope

def defaults : Scope → List String
  | [] => []
  | (none, space) :: rest => space :: defaults rest
  | (some _, _) :: rest => defaults rest

@[simp] theorem defaults_append (scope other : Scope) :
    defaults (scope ++ other) = scope.defaults ++ other.defaults := by
  fun_induction defaults scope with
  | case1 => rfl
  | case2 space rest ih => exact congrArg (space :: ·) ih
  | case3 short space rest ih => exact ih

theorem find?_none_eq_none_iff {scope : Scope} :
    scope.find? none = none ↔ scope.defaults = [] := by
  fun_induction defaults scope with
  | case1 => exact iff_of_true rfl rfl
  | case2 space rest ih => simp [find?]
  | case3 short space rest ih => simpa [find?, List.lookup_cons] using ih

theorem defaults_foldl (own parent : Scope) :
    defaults (parent.foldl
      (fun scope entry => if (scope.find? entry.1).isSome then scope else scope ++ [entry]) own) =
      if own.defaults = [] then parent.defaults.take 1 else own.defaults := by
  fun_induction defaults parent generalizing own with
  | case1 =>
      split
      case isTrue hnone => exact hnone
      case isFalse => rfl
  | case2 space rest ih =>
      rw [List.foldl_cons, ih]
      cases hfind : own.find? none with
      | none =>
          have hnone := find?_none_eq_none_iff.mp hfind
          simp [hnone, defaults]
      | some space =>
          have hsome : own.defaults ≠ [] := fun hnone => by
            cases hfind.symm.trans (find?_none_eq_none_iff.mpr hnone)
          simp [hsome]
  | case3 short space rest ih =>
      rw [List.foldl_cons, ih]
      split
      · rfl
      · rw [defaults_append, defaults, defaults, List.append_nil]

theorem defaults_within (own parent : Scope) :
    own.defaults ≠ [] ∧ (within own parent).defaults = own.defaults ∨
      own.defaults = [] ∧ ((within own parent).defaults = [] ↔ parent.defaults = []) ∧
        (within own parent).defaults ⊆ parent.defaults := by
  rw [within]
  by_cases hown : own.isEmpty
  · obtain rfl := List.isEmpty_iff.mp hown
    exact .inr ⟨rfl, Iff.rfl, List.Subset.refl _⟩
  · rw [if_neg hown, defaults_foldl]
    by_cases hnone : own.defaults = []
    · rw [if_pos hnone]
      exact .inr ⟨hnone, by simp, List.take_subset 1 _⟩
    · rw [if_neg hnone]
      exact .inl ⟨hnone, rfl⟩

theorem defaultSpace_bindings (scope : Scope) :
    scope.bindings.defaultSpace = scope.defaults.getLast? := by
  induction scope using List.reverseRecOn with
  | nil => rfl
  | append_singleton rest entry ih =>
      obtain ⟨key, value⟩ := entry
      rw [defaults_append]
      cases key with
      | none =>
          have hlast : bindings (rest ++ [(none, value)]) = (bindings rest).bindDefault value := by
            rw [bindings, List.foldl_append]
            rfl
          rw [hlast]
          exact List.getLast?_concat.symm
      | some short =>
          have hlast : bindings (rest ++ [(some short, value)]) =
              (bindings rest).bind short value := by
            rw [bindings, List.foldl_append]
            rfl
          rw [hlast, defaults, defaults, List.append_nil]
          exact ih

/-- The scope has the default namespaces that can be in effect within the tags. -/
structure Fits (scope : Scope) (tags : List Tag) : Prop where
  undeclared : scope.defaults = [] → InEffect tags none
  declared : ∀ space ∈ scope.defaults, InEffect tags (some space)

theorem Fits.nil : Fits [] [] where
  undeclared _ := .undeclared
  declared _ h := nomatch h

theorem Fits.within {own parent : Scope} {tag : Tag} {outer : List Tag}
    (hown : own.defaults = tag.defaults) (hparent : parent.Fits outer) :
    (within own parent).Fits (tag :: outer) := by
  rcases defaults_within own parent with ⟨hsome, heq⟩ | ⟨hnone, hempty, hsubset⟩
  · constructor
    · intro hnone
      exact absurd (heq ▸ hnone) hsome
    · intro space hspace
      rw [heq, hown] at hspace
      exact .declared hspace
  · rw [hown] at hnone
    constructor
    · intro hwithin
      exact .inherited hnone (hparent.undeclared (hempty.mp hwithin))
    · intro space hspace
      exact .inherited hnone (hparent.declared space (hsubset hspace))

theorem Fits.inEffect {scope : Scope} {tags : List Tag} (h : scope.Fits tags) :
    InEffect tags scope.bindings.defaultSpace := by
  rw [defaultSpace_bindings]
  cases hlast : scope.defaults.getLast? with
  | none => exact h.undeclared (List.getLast?_eq_none_iff.mp hlast)
  | some space => exact h.declared space (List.mem_of_getLast? hlast)

end Scope

theorem splitAttributes_eq_ok {own found : Scope} {others rest : List (RawName × String)}
    {tag : Tag} (h : splitAttributes own others tag = .ok (found, rest)) :
    found.defaults = own.defaults ++ tag.defaults ∧ rest ⊆ others ++ tag := by
  fun_induction splitAttributes own others tag with
  | case1 own others =>
      cases h
      exact ⟨(List.append_nil _).symm, by simp⟩
  | case2 => cases h
  | case3 => cases h
  | case4 => cases h
  | case5 own others name tail hshort _ _ _ ih =>
      obtain ⟨hdefaults, hsubset⟩ := ih h
      refine ⟨?_, List.Subset.trans hsubset (by simp)⟩
      simp [hdefaults, Tag.defaults, hshort]
  | case6 own others name value tail hshort _ _ _ _ ih =>
      obtain ⟨hdefaults, hsubset⟩ := ih h
      refine ⟨?_, List.Subset.trans hsubset (by simp)⟩
      simp [hdefaults, Tag.defaults, Scope.defaults, hshort]
  | case7 => cases h
  | case8 own others name value tail hshort hlocal _ ih =>
      obtain ⟨hdefaults, hsubset⟩ := ih h
      refine ⟨?_, List.Subset.trans hsubset (by simp)⟩
      simp [hdefaults, Tag.defaults, Scope.defaults, hshort, hlocal]
  | case9 own others name value tail hshort hlocal ih =>
      obtain ⟨hdefaults, hsubset⟩ := ih h
      refine ⟨?_, List.Subset.trans hsubset ?_⟩
      · simp [hdefaults, Tag.defaults, hlocal]
      · intro entry hentry
        simp only [List.mem_append, List.mem_cons] at hentry ⊢
        tauto

/-- An attribute without a namespace has no prefix. -/
theorem eq_of_attributeName {scope : Scope} {name : RawName} {key : String}
    (h : attributeName scope name = .ok ⟨none, key⟩) : name = ⟨"", key⟩ := by
  obtain ⟨short, localName⟩ := name
  unfold attributeName at h
  split at h
  case isTrue => cases h
  case isFalse hxml =>
      split at h
      case isTrue hempty =>
          cases h
          obtain rfl : short = "" := String.isEmpty_iff.mp hempty
          rfl
      case isFalse hempty =>
          obtain ⟨space, hspace, heq⟩ := bind_eq_ok_iff.mp h
          cases heq
          rw [Scope.namespaceOf, if_neg hempty] at hspace
          split at hspace <;> cases hspace

theorem mem_of_mem_expandAttributes {scope : Scope} {done expanded : List (QName × String)}
    {tag : Tag} (h : expandAttributes scope done tag = .ok expanded) {key value : String}
    (hmem : (⟨none, key⟩, value) ∈ expanded) :
    (⟨none, key⟩, value) ∈ done ∨ (⟨"", key⟩, value) ∈ tag := by
  induction tag generalizing done with
  | nil =>
      cases h
      exact .inl (List.mem_reverse.mp hmem)
  | cons entry rest ih =>
      obtain ⟨name, written⟩ := entry
      simp only [expandAttributes, bind_eq_ok_iff] at h
      obtain ⟨full, hname, h⟩ := h
      split at h
      case isTrue => cases h
      case isFalse =>
          rcases ih h with hdone | hrest
          · rcases List.mem_cons.mp hdone with heq | hdone
            · cases heq
              rw [eq_of_attributeName hname]
              exact .inr List.mem_cons_self
            · exact .inl hdone
          · exact .inr (List.mem_cons_of_mem _ hrest)

/-! Trees. -/

theorem Element.inside_iff {root inner : Element} :
    root.Inside inner ↔ inner = root ∨ ∃ child ∈ root.children, child.Inside inner := by
  constructor
  · intro h
    induction h with
    | self => exact .inl rfl
    | child _ hchild ih =>
        rcases ih with rfl | ⟨between, hbetween, hinside⟩
        · exact .inr ⟨_, hchild, .self⟩
        · exact .inr ⟨between, hbetween, hinside.child hchild⟩
  · rintro (rfl | ⟨child, hchild, hinside⟩)
    · exact .self
    · induction hinside with
      | self => exact .child .self hchild
      | child _ hnext ih => exact ih.child hnext

/-- Each element of the tree begins with one of the tokens, and has the default namespace that is
in effect there. -/
def Element.Placed (root : Element) (tokens : List Token) : Prop :=
  ∀ element, root.Inside element →
    ∃ tags, element.StandsIn tokens tags ∧ InEffect tags element.bindings.defaultSpace

namespace Element.Placed

variable {element other : Element} {tokens : List Token}

theorem append (h : element.Placed tokens) (more : List Token) :
    element.Placed (tokens ++ more) := by
  intro inner hinner
  obtain ⟨tags, hstands, heffect⟩ := h inner hinner
  exact ⟨tags, hstands.append more, heffect⟩

/-- What an element is within its tag does not depend on its text, its end and its children. -/
theorem update (h : element.Placed tokens) (hname : other.name = element.name)
    (hattributes : other.attributes = element.attributes) (hstart : other.start = element.start)
    (hbindings : other.bindings = element.bindings)
    (hchildren : ∀ child ∈ other.children, child ∈ element.children ∨ child.Placed tokens) :
    other.Placed tokens := by
  intro inner hinner
  rcases Element.inside_iff.mp hinner with rfl | ⟨child, hchild, hinside⟩
  · obtain ⟨tags, hstands, heffect⟩ := h element .self
    refine ⟨tags, ?_, hbindings ▸ heffect⟩
    rw [StandsIn, hstart, hattributes, tag, hname]
    exact hstands
  · rcases hchildren child hchild with hold | hnew
    · exact h inner (Element.inside_iff.mpr (.inr ⟨child, hold, hinside⟩))
    · exact hnew inner hinside

end Element.Placed

namespace Unclosed

variable {frame : Unclosed} {tokens : List Token}

theorem placed_close (h : frame.element.Placed tokens) (stop : Nat) :
    (frame.close stop).Placed tokens := by
  refine h.update rfl rfl rfl rfl ?_
  intro child hchild
  exact .inl (List.mem_reverse.mp hchild)

theorem placed_addText (h : frame.element.Placed tokens) (text : String) :
    (frame.addText text).element.Placed tokens :=
  h.update rfl rfl rfl rfl fun _ => .inl

theorem placed_addChild (h : frame.element.Placed tokens) {child : Element}
    (hchild : child.Placed tokens) : (frame.addChild child).element.Placed tokens := by
  refine h.update rfl rfl rfl rfl ?_
  intro other hother
  rcases List.mem_cons.mp hother with rfl | hold
  · exact .inr hchild
  · exact .inl hold

end Unclosed

/-- The open elements are those of the open tags. -/
inductive Encloses (tokens : List Token) : List Unclosed → List Tag → Prop
  | nil : Encloses tokens [] []
  | cons {frame : Unclosed} {frames : List Unclosed} {tag : Tag} {tags : List Tag} :
      frame.scope.Fits (tag :: tags) → frame.element.Placed tokens →
        Encloses tokens frames tags → Encloses tokens (frame :: frames) (tag :: tags)

theorem Encloses.append {tokens : List Token} {frames : List Unclosed} {tags : List Tag}
    (h : Encloses tokens frames tags) (more : List Token) :
    Encloses (tokens ++ more) frames tags := by
  induction h with
  | nil => exact .nil
  | cons hscope hplaced _ ih => exact .cons hscope (hplaced.append more) ih

theorem Encloses.fits_head {tokens : List Token} {frames : List Unclosed} {tags : List Tag}
    (h : Encloses tokens frames tags) :
    ((frames.head?.map Unclosed.scope).getD []).Fits tags := by
  cases h with
  | nil => exact .nil
  | cons hscope _ _ => exact hscope

theorem Encloses.head {tokens : List Token} {frame : Unclosed} {frames : List Unclosed}
    {tags : List Tag} (h : Encloses tokens (frame :: frames) tags) :
    frame.scope.Fits tags ∧ frame.element.Placed tokens ∧ Encloses tokens frames tags.tail := by
  cases h with
  | cons hscope hplaced hrest => exact ⟨hscope, hplaced, hrest⟩

theorem Encloses.addText {tokens : List Token} {frame : Unclosed} {frames : List Unclosed}
    {tags : List Tag} (h : Encloses tokens (frame :: frames) tags) (text : String) :
    Encloses tokens (frame.addText text :: frames) tags := by
  cases h with
  | cons hscope hplaced hrest => exact .cons hscope (Unclosed.placed_addText hplaced text) hrest

namespace Forest

/-- The forest is what the tokens spell. -/
structure Spells (forest : Forest) (tokens : List Token) : Prop where
  encloses : Encloses tokens forest.unclosed (openTags tokens)
  root : ∀ root, forest.root = some root → root.Placed tokens

variable {forest next : Forest} {tokens : List Token}

theorem spells_finish {outer : List Unclosed} {element : Element} {tags : List Tag}
    (hroot : ∀ root, forest.root = some root → root.Placed tokens)
    (houter : Encloses tokens outer tags) (helement : element.Placed tokens) :
    Encloses tokens (forest.finish outer element).unclosed tags ∧
      ∀ root, (forest.finish outer element).root = some root → root.Placed tokens := by
  cases houter with
  | nil =>
      refine ⟨.nil, ?_⟩
      intro root heq
      cases heq
      exact helement
  | cons hscope hplaced hrest =>
      exact ⟨.cons hscope (Unclosed.placed_addChild hplaced helement) hrest, hroot⟩

theorem placed_of_opened (h : forest.Spells tokens) {name : RawName} {tag : Tag}
    {start stop : Nat} {frame : Unclosed} (hframe : forest.opened name tag start stop = .ok frame)
    (closed : Bool) :
    frame.scope.Fits (tag :: openTags tokens) ∧
      frame.element.Placed (tokens ++ [.opening name tag closed start stop]) := by
  unfold opened at hframe
  split at hframe
  case isTrue => cases hframe
  simp only [bind_eq_ok_iff] at hframe
  obtain ⟨⟨own, others⟩, hsplit, expanded, hexpand, space, _, heq⟩ := hframe
  cases heq
  obtain ⟨hown, hothers⟩ := splitAttributes_eq_ok hsplit
  have hfits := Scope.Fits.within hown h.encloses.fits_head
  refine ⟨hfits, ?_⟩
  intro inner hinner
  rcases Element.inside_iff.mp hinner with rfl | ⟨child, hchild, _⟩
  · refine ⟨_, ⟨tokens, name, tag, closed, start, stop, [], rfl, rfl, rfl, ?_, rfl⟩, hfits.inEffect⟩
    intro key value hmem
    obtain ⟨⟨full, written⟩, hexpanded, hkept⟩ := List.mem_filterMap.mp hmem
    obtain ⟨space', local'⟩ := full
    cases space' with
    | none =>
        cases hkept
        rcases mem_of_mem_expandAttributes hexpand hexpanded with hnone | hwritten
        · cases hnone
        · exact hothers hwritten
    | some _ => cases hkept
  · cases hchild

/-- One token keeps what the tree is to the tokens. -/
theorem spells_add (h : forest.Spells tokens) {token : Token}
    (hnext : forest.add token = .ok next) :
    next.Spells (tokens ++ [token]) := by
  have hkept : Encloses (tokens ++ [token]) forest.unclosed (openTags tokens) :=
    h.encloses.append [token]
  have hroot : ∀ root, forest.root = some root → root.Placed (tokens ++ [token]) :=
    fun root heq => (h.root root heq).append [token]
  -- by the token: an opening one adds a scope, a closing one places what it closes
  suffices Encloses (tokens ++ [token]) next.unclosed (nest (openTags tokens) token) ∧
      ∀ root, next.root = some root → root.Placed (tokens ++ [token]) by
    refine ⟨?_, this.2⟩
    rw [openTags_append_singleton]
    exact this.1
  cases token with
  | opening name tag closed start stop =>
      obtain ⟨frame, hframe, heq⟩ := bind_eq_ok_iff.mp hnext
      obtain ⟨hfits, hplaced⟩ := placed_of_opened h hframe closed
      have heq : (if closed then forest.finish forest.unclosed (frame.close stop)
          else { forest with unclosed := frame :: forest.unclosed }) = next := Except.ok.inj heq
      subst heq
      cases closed with
      | false => exact ⟨.cons hfits hplaced hkept, hroot⟩
      | true => exact spells_finish hroot hkept (Unclosed.placed_close hplaced _)
  | closing name stop =>
      cases hframes : forest.unclosed with
      | nil => simp only [Forest.add, hframes, reduceCtorEq] at hnext
      | cons frame outer =>
          simp only [Forest.add, hframes] at hnext
          rw [hframes] at hkept
          obtain ⟨_, hplaced, houter⟩ := hkept.head
          split at hnext
          case isFalse => cases hnext
          case isTrue =>
              cases hnext
              exact spells_finish hroot houter (Unclosed.placed_close hplaced _)
  | text value plain =>
      cases hframes : forest.unclosed with
      | nil =>
          simp only [Forest.add, hframes] at hnext
          split at hnext
          case isFalse => cases hnext
          case isTrue =>
              cases hnext
              exact ⟨hkept, hroot⟩
      | cons frame outer =>
          simp only [Forest.add, hframes] at hnext
          cases hnext
          rw [hframes] at hkept
          exact ⟨hkept.addText value, hroot⟩
  | cdata value =>
      cases hframes : forest.unclosed with
      | nil => simp only [Forest.add, hframes, reduceCtorEq] at hnext
      | cons frame outer =>
          simp only [Forest.add, hframes] at hnext
          cases hnext
          rw [hframes] at hkept
          exact ⟨hkept.addText value, hroot⟩
  | skipped =>
      cases hnext
      exact ⟨hkept, hroot⟩

theorem spells_foldlM {more : List Token} (h : forest.Spells tokens)
    (hnext : more.foldlM add forest = .ok next) : next.Spells (tokens ++ more) := by
  induction more generalizing forest tokens with
  | nil =>
      cases hnext
      rwa [List.append_nil]
  | cons token rest ih =>
      obtain ⟨between, hbetween, hrest⟩ := bind_eq_ok_iff.mp hnext
      simpa using ih (spells_add h hbetween) hrest

end Forest

theorem placed_of_readRoot {source : String} {root : Element} (h : readRoot source = .ok root) :
    ∃ tokens, tokensOf source = .ok tokens ∧ root.Placed tokens := by
  obtain ⟨tokens, htokens, hroot⟩ := bind_eq_ok_iff.mp h
  obtain ⟨forest, hforest, hroot⟩ := bind_eq_ok_iff.mp hroot
  have hempty : Forest.Spells {} [] := by
    refine ⟨.nil, ?_⟩
    intro root heq
    cases heq
  have hspells : forest.Spells tokens := Forest.spells_foldlM hempty hforest
  refine ⟨tokens, htokens, hspells.root root ?_⟩
  by_cases hopen : (!forest.unclosed.isEmpty) = true
  · rw [if_pos hopen] at hroot
    cases hroot
  · rw [if_neg hopen] at hroot
    cases hfound : forest.root with
    | none =>
        rw [hfound] at hroot
        cases hroot
    | some found =>
        rw [hfound] at hroot
        cases hroot
        rfl

end SchemaBinding.Xml
