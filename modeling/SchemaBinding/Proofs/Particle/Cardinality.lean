import SchemaBinding.Proofs.Particle.Expansion
import SchemaBinding.Proofs.Particle.Language
import SchemaBinding.Proofs.Struct.File
import Mathlib

namespace SchemaBinding

/-- A sound memo with no scalar and no group unfinished, as it is while the members and fields of
a type are worked out. -/
def Memo.Serving (set : SchemaSet) (memo : Memo) : Prop :=
  memo.Sound set ∧ Resolving.OnlyContents memo.unfinished

theorem Memo.Settled.serving {set : SchemaSet} {memo : Memo} (h : memo.Settled set) :
    memo.Serving set := by
  refine ⟨h.1, ?_⟩
  rw [h.2]
  exact ⟨rfl, rfl, rfl⟩

theorem Memo.Serving.run_eq {set : SchemaSet} {α : Type} {work : Resolving α}
    {result : Except Error α} {memo : Memo} (h : memo.Serving set)
    (hwork : ∀ unfinished, Resolving.OnlyContents unfinished →
      Agrees set unfinished work result) :
    ∃ next : Memo, next.Serving set ∧ work memo = outcome result next := by
  obtain ⟨next, hsound, hunfinished, heq⟩ := hwork memo.unfinished h.2 memo h.1 rfl
  refine ⟨next, ⟨hsound, ?_⟩, heq⟩
  rw [hunfinished]
  exact h.2

namespace Resolving

theorem serves_while (set : SchemaSet) {unfinished : Unfinished} (h : OnlyContents unfinished) :
    (agreement set unfinished).Serves (answers set) set.answers :=
  serves_answersWith h (contentOf set) set.contentRule.answer

theorem agrees_expandWith (set : SchemaSet) {unfinished : Unfinished}
    (h : OnlyContents unfinished) (particle : Particle) :
    Agrees set unfinished
      (Rules.expandWith set (answers set).elementName (answers set).members {} particle)
      (Rules.expandWith set set.answers.elementName set.answers.members {} particle) := by
  have hserves := serves_while set h
  exact Rules.follows_expandWith set (agreement set unfinished) hserves.elementName {} particle
    fun _ _ next _ => hserves.members next

end Resolving

namespace Field

theorem agrees_ofMember (set : SchemaSet) (options : Options) (package : String)
    (member : Member) {unfinished : Unfinished} (h : Resolving.OnlyContents unfinished) :
    Agrees set unfinished (ofMember set options package member)
      (memberField set options set.answers package member) :=
  follows_memberField set options (Resolving.serves_while set h) package member

variable {set : SchemaSet} {options : Options} {package : String}

/-- The field takes what the words hold of an element: all of it if it is no slice, and some of
it if it is never left out. -/
structure Takes (field : Field) (number : Nat) (words : Language Nat) : Prop where
  single : field.isArray = false → ∀ word ∈ words, word.count number ≤ 1
  present : ¬ ",omitempty".toList <:+ field.tag.toList →
    ∀ word ∈ words, 1 ≤ word.count number
  once : field.referenced.isSome = true → field.isPointer = false → field.isArray = false →
    ∀ word ∈ words, word.count number = 1

theorem isSuffix_tagText (name : String) (isAttribute : Bool) :
    ",omitempty".toList <:+ (tagText name isAttribute true).toList := by
  rw [tagText, String.toList_append]
  exact List.suffix_append _ _

/-- What a field says of an element is what the tree says of it. -/
theorem flags_of_elementField {answers : Answers (Except Error)} {leaf : ContentTree.Leaf}
    {written : ElementDecl} (hwritten : set.elementDecl leaf.id = .ok written)
    (hoccurs : leaf.occurs = written.occurs) {name : String} {field : Field}
    (h : elementField set options answers package leaf.id leaf.context name = .ok field) :
    field.isArray = leaf.isRepeated ∧
      (∃ target : String, field.tag = tagText target false leaf.isOptional) ∧
      field.isPointer = (field.referenced.isSome && leaf.isOptional && !leaf.isRepeated) := by
  simp only [elementField, given_eq, hwritten, bind_eq_ok_iff, Except.ok.injEq] at h
  obtain ⟨_, rfl, target, _, type, _, value, _, heq⟩ := h
  cases heq
  rw [ContentTree.Leaf.isRepeated, ContentTree.Leaf.isOptional, hoccurs]
  exact ⟨rfl, ⟨target.name, rfl⟩, rfl⟩

theorem takes_of_elementField {answers : Answers (Except Error)} {leaf : ContentTree.Leaf}
    {written : ElementDecl} (hwritten : set.elementDecl leaf.id = .ok written)
    (hoccurs : leaf.occurs = written.occurs) {name : String} {field : Field}
    (h : elementField set options answers package leaf.id leaf.context name = .ok field)
    {words : Language Nat} (hbounds : leaf.Bounds words) : field.Takes leaf.number words := by
  obtain ⟨harray, ⟨target, htag⟩, hpointer⟩ := flags_of_elementField hwritten hoccurs h
  have hleast : leaf.isOptional = false → ∀ word ∈ words, 1 ≤ word.count leaf.number :=
    hbounds.least
  refine ⟨fun hsingle => hbounds.most (harray ▸ hsingle), ?_, ?_⟩
  · intro hkept
    apply hleast
    apply Bool.eq_false_iff.mpr
    intro hoptional
    rw [htag, hoptional] at hkept
    exact hkept (isSuffix_tagText target false)
  · intro hreferenced hplain hsingle word hword
    have hrepeated : leaf.isRepeated = false := harray ▸ hsingle
    have hoptional : leaf.isOptional = false := by
      simpa [hpointer, hreferenced, hrepeated] using hplain
    exact Nat.le_antisymm (hbounds.most hrepeated word hword) (hleast hoptional word hword)

end Field

theorem exists_getElem?_of_forall₂ {α β : Type} {Related : α → β → Prop} {first : List α}
    {second : List β} (h : List.Forall₂ Related first second) {index : Nat} {item : α}
    (hitem : first[index]? = some item) :
    ∃ other, second[index]? = some other ∧ Related item other := by
  induction h generalizing index with
  | nil => cases hitem
  | cons hrelated _ ih =>
      cases index with
      | zero =>
          cases hitem
          exact ⟨_, rfl, hrelated⟩
      | succ index => exact ih hitem

/-- A particle that is written out stands for a tree with an element for each member. Whatever
words the tree stands for, the field of a member takes what they hold of its element. -/
theorem Rules.takes_of_expandWith {set : SchemaSet} {particle : Particle} {memo after : Memo}
    {found : List Member} (hmemo : memo.Serving set)
    (h : expandWith set (Resolving.answers set).elementName (Resolving.answers set).members {}
      particle memo = .ok found after) :
    after.Serving set ∧ ∃ tree, (∀ other, set.Expands 0 particle other ↔ other = tree) ∧
      tree.elements.map Prod.fst = List.range found.length ∧
      ∀ number id, (number, id) ∈ tree.elements → ∃ name context,
        found[number]? = some ⟨name, .declaredElement id context⟩ ∧
        ∀ (options : Options) (package : String) (later last : Memo) (field : Field),
          later.Serving set →
            Field.ofMember set options package ⟨name, .declaredElement id context⟩ later =
              .ok field last →
            field.Takes number tree.language := by
  obtain ⟨next, hnext, heq⟩ := hmemo.run_eq fun _ hopen =>
    Resolving.agrees_expandWith set hopen particle
  rw [heq] at h
  obtain ⟨hfound, rfl⟩ := eq_ok_of_outcome h
  obtain ⟨tree, htree, hgives⟩ := exists_expands hfound 0
  have hlength : tree.elements.length = found.length := by
    rw [← ContentTree.map_entry_leaves {} tree, List.length_map]
    exact hgives.length_eq
  have hnumbers : tree.elements.map Prod.fst = List.range found.length := by
    rw [htree.numbers, hlength, List.range_eq_range']
  refine ⟨hnext, tree, htree.iff_eq, hnumbers, ?_⟩
  intro number id helement
  rw [← ContentTree.map_entry_leaves {} tree] at helement
  obtain ⟨leaf, hleaf, hentry⟩ := List.mem_map.mp helement
  cases hentry
  obtain ⟨index, hindex⟩ := List.getElem?_of_mem hleaf
  have hnumber : leaf.number = index := (htree.number_eq hindex).trans (Nat.zero_add index)
  obtain ⟨member, hmember, name, _, rfl⟩ := exists_getElem?_of_forall₂ hgives hindex
  refine ⟨Identifier.exported name, leaf.context, hnumber ▸ hmember, ?_⟩
  intro options package later last field hlater hfield
  obtain ⟨final, _, hrun⟩ := hlater.run_eq fun _ =>
    Field.agrees_ofMember set options package
      ⟨Identifier.exported name, .declaredElement leaf.id leaf.context⟩
  rw [hrun] at hfield
  obtain ⟨hplain, _⟩ := eq_ok_of_outcome hfield
  obtain ⟨written, hwritten, hoccurs⟩ := htree.written hleaf
  have hnodup : (tree.elements.map Prod.fst).Nodup := by
    rw [htree.numbers]
    exact List.nodup_range'
  exact Field.takes_of_elementField hwritten hoccurs hplain
    (ContentTree.bounds_leaf tree hnodup hleaf)

/-! A line, and then any number of notes and marks. -/

namespace Lines

def span : Span := ⟨⟨0⟩, 0, 0⟩

def element (name : String) (type : Option TypeRef) : ElementDecl :=
  ⟨.named name type, .once, none, [], span⟩

def extra : GroupDef :=
  ⟨"extra", none, some (.model .choice .once [.element ⟨1⟩, .element ⟨2⟩]), span⟩

def document : SchemaDocument where
  path := ⟨"lines.xsd"⟩
  document := ⟨"", ⟨⟨none, "schema"⟩, [], none, {}, 0, 0, []⟩⟩
  schema := {
    targetSpace := none
    symbols := {
      document := "lines.xsd"
      permissive := false
      entries := [((.group, "extra"), 0)] }
    directives := [] }

def set : SchemaSet where
  documents := #[document]
  roots := [⟨0⟩]
  model := {
    types := #[⟨some "Line", none, none, [], span, .complex (.direct {}) false⟩]
    elements := #[element "line" (some (.inline ⟨0⟩)), element "note" none, element "mark" none]
    groups := #[extra] }

def particle : Particle :=
  .model .sequence .once [.element ⟨0⟩, .group ⟨⟨none, "extra"⟩, span⟩ ⟨0, none⟩]

def tree : ContentTree :=
  .model .sequence .once [.element 0 ⟨0⟩ .once,
    .model .sequence ⟨0, none⟩
      [.model .choice .once [.element 1 ⟨1⟩ .once, .element 2 ⟨2⟩ .once]]]

theorem expand : Rules.expandWith set set.answers.elementName set.answers.members {} particle =
    .ok [⟨"Line", .declaredElement ⟨0⟩ {}⟩, ⟨"Note", .declaredElement ⟨1⟩ ⟨true, true⟩⟩,
      ⟨"Mark", .declaredElement ⟨2⟩ ⟨true, true⟩⟩] := by
  cbv

theorem expands_element {id : ElementId} {written : ElementDecl}
    (hwritten : set.elementDecl id = .ok written) (honce : written.occurs = .once) (start : Nat) :
    set.Expands start (.element id) (.element start id .once) :=
  honce ▸ .element hwritten

theorem expands : set.Expands 0 particle tree := by
  have hgroup : set.resolve .group ⟨none, "extra"⟩ span = .ok ⟨0⟩ := by cbv
  have hline : set.Expands 0 (.element ⟨0⟩) (.element 0 ⟨0⟩ .once) := expands_element rfl rfl 0
  refine .model (.cons hline (.cons (.group hgroup rfl ?_) .nil))
  have hnote : set.Expands 1 (.element ⟨1⟩) (.element 1 ⟨1⟩ .once) := expands_element rfl rfl 1
  have hmark : set.Expands 2 (.element ⟨2⟩) (.element 2 ⟨2⟩ .once) := expands_element rfl rfl 2
  exact .cons (.model (.cons hnote (.cons hmark .nil))) .nil

theorem mem_copies_once {words : Language Nat} {word : List Nat} (h : word ∈ words) :
    word ∈ Occurs.once.copies words := by
  refine ⟨1, ⟨Nat.le_refl 1, ?_⟩, ?_⟩
  · rintro bound ⟨⟩
    exact Nat.le_refl 1
  · rw [pow_one]
    exact h

/-- A line, a mark and a note. -/
theorem word_mem_language : [0, 2, 1] ∈ tree.language := by
  have hchosen : ∀ number, number = 1 ∨ number = 2 → [number] ∈ Occurs.once.copies
      (ModelType.choice.join [Occurs.once.copies {[1]}, Occurs.once.copies {[2]}]) := by
    intro number hnumber
    apply mem_copies_once
    apply mem_sum_iff.mpr
    rcases hnumber with rfl | rfl
    · exact ⟨_, List.mem_cons_self, mem_copies_once rfl⟩
    · exact ⟨_, List.mem_cons_of_mem _ List.mem_cons_self, mem_copies_once rfl⟩
  have hextra : [2, 1] ∈ Occurs.copies ⟨0, none⟩ (ModelType.sequence.join [Occurs.once.copies
      (ModelType.choice.join [Occurs.once.copies {[1]}, Occurs.once.copies {[2]}])]) := by
    refine ⟨2, ⟨Nat.zero_le 2, by simp⟩, Language.mem_pow.mpr ⟨[[2], [1]], rfl, rfl, ?_⟩⟩
    intro part hpart
    rw [ModelType.join, List.prod_singleton]
    simp only [List.mem_cons, List.not_mem_nil, or_false] at hpart
    rcases hpart with rfl | rfl
    · exact hchosen 2 (.inr rfl)
    · exact hchosen 1 (.inl rfl)
  apply mem_copies_once
  change [0, 2, 1] ∈ List.prod [_, _]
  rw [List.prod_cons, List.prod_singleton]
  exact Language.mem_mul.mpr ⟨[0], mem_copies_once rfl, [2, 1], hextra, rfl⟩

theorem line_field : Field.memberField set {} set.answers "schema"
    ⟨"Line", .declaredElement ⟨0⟩ {}⟩ = .ok {
      name := "Line", type := ⟨none, "Line"⟩, tag := "line", documentation := []
      referenced := some ⟨0⟩ } := by
  cbv

end Lines

theorem Rules.takes_of_lines : ∃ found after field last,
    expandWith Lines.set (Resolving.answers Lines.set).elementName
      (Resolving.answers Lines.set).members {} Lines.particle {} = .ok found after ∧
    Lines.set.Expands 0 Lines.particle Lines.tree ∧ [0, 2, 1] ∈ Lines.tree.language ∧
    Field.ofMember Lines.set {} "schema" ⟨"Line", .declaredElement ⟨0⟩ {}⟩ after =
      .ok field last ∧
    field.typeText = "Line" ∧ field.tag = "line" ∧ field.Takes 0 Lines.tree.language := by
  have hmemo : Memo.Serving Lines.set {} := (Memo.settled_empty Lines.set).serving
  obtain ⟨after, _, hrun⟩ := hmemo.run_eq fun _ hopen =>
    Resolving.agrees_expandWith Lines.set hopen Lines.particle
  rw [Lines.expand] at hrun
  obtain ⟨hafter, tree, htree, _, htakes⟩ := takes_of_expandWith hmemo hrun
  have hsame : Lines.tree = tree := (htree Lines.tree).mp Lines.expands
  subst hsame
  obtain ⟨name, context, hmember, hfield⟩ := htakes 0 ⟨0⟩ List.mem_cons_self
  cases hmember
  obtain ⟨last, _, hline⟩ := hafter.run_eq fun _ =>
    Field.agrees_ofMember Lines.set {} "schema" ⟨"Line", .declaredElement ⟨0⟩ {}⟩
  rw [Lines.line_field] at hline
  exact ⟨_, after, _, last, hrun, Lines.expands, Lines.word_mem_language, hline, by cbv, rfl,
    hfield {} "schema" after last _ hafter hline⟩

end SchemaBinding
