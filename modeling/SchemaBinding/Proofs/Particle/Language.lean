import SchemaBinding.Proofs.Particle.Tree
import Mathlib.Computability.Language

namespace SchemaBinding

namespace Occurs

def Allows (occurs : Occurs) (count : Nat) : Prop :=
  occurs.least ≤ count ∧ ∀ bound, occurs.greatest = some bound → count ≤ bound

def copies (occurs : Occurs) (words : Language Nat) : Language Nat :=
  {word | ∃ count, occurs.Allows count ∧ word ∈ words ^ count}

end Occurs

/-- The words of a model group from those of its members: a word of each in order, a word of one
of them, or a word of each in any order. -/
def ModelType.join : ModelType → List (Language Nat) → Language Nat
  | .sequence, languages => languages.prod
  | .choice, languages => languages.sum
  | .all, languages => {word | ∃ order : List (Language Nat),
      order.Perm languages ∧ word ∈ order.prod}

namespace ContentTree

mutual

def language : ContentTree → Language Nat
  | .element number _ occurs => occurs.copies {[number]}
  | .model type occurs trees => occurs.copies (type.join (languages trees))

def languages : List ContentTree → List (Language Nat)
  | [] => []
  | tree :: rest => tree.language :: languages rest

end

end ContentTree

section

variable {number : Nat} {words : Language Nat} {word : List Nat}

/-- No word has the number. -/
def Avoids (number : Nat) (words : Language Nat) : Prop :=
  ∀ word ∈ words, number ∉ word

theorem exists_of_mem_copies {occurs : Occurs} (h : word ∈ occurs.copies words) :
    ∃ parts : List (List Nat), word = parts.flatten ∧ occurs.Allows parts.length ∧
      ∀ part ∈ parts, part ∈ words := by
  obtain ⟨count, hallows, hword⟩ := h
  obtain ⟨parts, rfl, rfl, hparts⟩ := Language.mem_pow.mp hword
  exact ⟨parts, rfl, hallows, hparts⟩

theorem Avoids.copies (h : Avoids number words) (occurs : Occurs) :
    Avoids number (occurs.copies words) := by
  intro word hword hmem
  obtain ⟨parts, rfl, _, hparts⟩ := exists_of_mem_copies hword
  obtain ⟨part, hpart, hnumber⟩ := List.mem_flatten.mp hmem
  exact h part (hparts part hpart) hnumber

theorem avoids_prod {languages : List (Language Nat)}
    (h : ∀ words ∈ languages, Avoids number words) : Avoids number languages.prod := by
  induction languages with
  | nil =>
      intro word hword
      rw [List.prod_nil, Language.mem_one] at hword
      rw [hword]
      exact List.not_mem_nil
  | cons words rest ih =>
      intro word hword hmem
      rw [List.prod_cons] at hword
      obtain ⟨first, hfirst, second, hsecond, rfl⟩ := Language.mem_mul.mp hword
      rcases List.mem_append.mp hmem with hhere | hlater
      · exact h words List.mem_cons_self first hfirst hhere
      · exact ih (fun other hother => h other (List.mem_cons_of_mem words hother)) second hsecond
          hlater

theorem mem_sum_iff {languages : List (Language Nat)} :
    word ∈ languages.sum ↔ ∃ words ∈ languages, word ∈ words := by
  induction languages with
  | nil => simp [Language.notMem_zero]
  | cons words rest ih =>
      rw [List.sum_cons, Language.mem_add, ih]
      simp

theorem Avoids.join {type : ModelType} {languages : List (Language Nat)}
    (h : ∀ words ∈ languages, Avoids number words) : Avoids number (type.join languages) := by
  intro word hword
  cases type with
  | sequence => exact avoids_prod h word hword
  | choice =>
      obtain ⟨words, hwords, hmem⟩ := mem_sum_iff.mp hword
      exact h words hwords word hmem
  | all =>
      obtain ⟨order, horder, hmem⟩ := hword
      exact avoids_prod (fun words hwords => h words (horder.mem_iff.mp hwords)) word hmem

/-- In a word of several languages in order, of which one only has the number, it is as often as
in a word of that one. -/
theorem count_prod {before after : List (Language Nat)}
    (h : ∀ other ∈ before ++ after, Avoids number other)
    (hword : word ∈ (before ++ words :: after).prod) :
    ∃ part ∈ words, word.count number = part.count number := by
  rw [List.prod_append, List.prod_cons] at hword
  obtain ⟨first, hfirst, rest, hrest, rfl⟩ := Language.mem_mul.mp hword
  obtain ⟨part, hpart, last, hlast, rfl⟩ := Language.mem_mul.mp hrest
  have hbefore := avoids_prod fun other hother => h other (List.mem_append_left after hother)
  have hafter := avoids_prod fun other hother => h other (List.mem_append_right before hother)
  refine ⟨part, hpart, ?_⟩
  rw [List.count_append, List.count_append, List.count_eq_zero.mpr (hbefore first hfirst),
    List.count_eq_zero.mpr (hafter last hlast), Nat.zero_add, Nat.add_zero]

theorem exists_split_of_perm {order before after : List (Language Nat)}
    (h : order.Perm (before ++ words :: after)) :
    ∃ first last, order = first ++ words :: last ∧ (first ++ last).Perm (before ++ after) := by
  have hmem : words ∈ order := h.mem_iff.mpr (List.mem_append_right before List.mem_cons_self)
  obtain ⟨first, last, rfl⟩ := List.append_of_mem hmem
  refine ⟨first, last, rfl, ?_⟩
  have hcons := List.perm_middle.symm.trans (h.trans List.perm_middle)
  exact hcons.cons_inv

/-- In a word of a model group in which one member only has the number, it is as often as in a
word of that member, unless the group is a choice and the word is one of another member. -/
theorem count_join {type : ModelType} {before after : List (Language Nat)}
    (h : ∀ other ∈ before ++ after, Avoids number other)
    (hword : word ∈ type.join (before ++ words :: after)) :
    (∃ part ∈ words, word.count number = part.count number) ∨
      type = .choice ∧ word.count number = 0 := by
  cases type with
  | sequence => exact .inl (count_prod h hword)
  | choice =>
      obtain ⟨chosen, hchosen, hmem⟩ := mem_sum_iff.mp hword
      rw [List.mem_append, List.mem_cons] at hchosen
      by_cases heq : chosen = words
      · rw [heq] at hmem
        exact .inl ⟨word, hmem, rfl⟩
      · have hother : chosen ∈ before ++ after := by
          rcases hchosen with hbefore | heq' | hafter
          · exact List.mem_append_left after hbefore
          · exact absurd heq' heq
          · exact List.mem_append_right before hafter
        exact .inr ⟨rfl, List.count_eq_zero.mpr (h chosen hother word hmem)⟩
  | all =>
      obtain ⟨order, horder, hmem⟩ := hword
      obtain ⟨first, last, rfl, hperm⟩ := exists_split_of_perm horder
      exact .inl (count_prod (fun other hother => h other (hperm.mem_iff.mp hother)) hmem)

theorem count_copies_le {occurs : Occurs} (honce : occurs.isRepeated = false)
    (h : ∀ part ∈ words, part.count number ≤ 1) (hword : word ∈ occurs.copies words) :
    word.count number ≤ 1 := by
  obtain ⟨parts, rfl, hallows, hparts⟩ := exists_of_mem_copies hword
  have hbound : occurs.greatest = some 1 := by simpa [Occurs.isRepeated] using honce
  have hlength := hallows.2 1 hbound
  match parts, hlength with
  | [], _ => exact Nat.zero_le 1
  | [part], _ =>
      rw [List.flatten_singleton]
      exact h part (hparts part List.mem_cons_self)

theorem le_count_copies {occurs : Occurs} (hsome : occurs.isEmptiable = false)
    (h : ∀ part ∈ words, 1 ≤ part.count number) (hword : word ∈ occurs.copies words) :
    1 ≤ word.count number := by
  obtain ⟨parts, rfl, hallows, hparts⟩ := exists_of_mem_copies hword
  have hleast : occurs.least ≠ 0 := by simpa [Occurs.isEmptiable] using hsome
  match parts, hallows.1 with
  | [], hempty => exact absurd (Nat.le_zero.mp hempty) hleast
  | part :: rest, _ =>
      rw [List.flatten_cons, List.count_append]
      exact Nat.le_add_right_of_le (h part (hparts part List.mem_cons_self))

end

namespace ContentTree

mutual

theorem avoids_language {number : Nat} : (tree : ContentTree) →
    number ∉ tree.elements.map Prod.fst → Avoids number tree.language
  | .element other id occurs, h => by
      have hne : Avoids number ({[other]} : Language Nat) := by
        intro word hword
        rw [hword]
        exact h
      rw [language]
      exact hne.copies occurs
  | .model type occurs trees, h => by
      rw [language]
      exact (Avoids.join (avoids_languages trees h)).copies occurs

theorem avoids_languages {number : Nat} : (trees : List ContentTree) →
    number ∉ (elementsOf trees).map Prod.fst →
      ∀ words ∈ languages trees, Avoids number words
  | [], _, words, hwords => by
      cases hwords
  | tree :: rest, h, words, hwords => by
      rw [elementsOf, List.map_append, List.mem_append, not_or] at h
      rcases List.mem_cons.mp hwords with rfl | hlater
      · exact avoids_language tree h.1
      · exact avoids_languages rest h.2 words hlater

end

/-! Bounds on an element. -/

/-- Every word has the element at most once, unless it repeats, and at least once, unless it may
be missing. -/
structure Leaf.Bounds (leaf : Leaf) (words : Language Nat) : Prop where
  most : leaf.isRepeated = false → ∀ word ∈ words, word.count leaf.number ≤ 1
  least : leaf.isOptional = false → ∀ word ∈ words, 1 ≤ word.count leaf.number

theorem isRepeated_of_mem_leavesOf {context : ParticleContext} {trees : List ContentTree}
    {leaf : Leaf} (h : leaf ∈ leavesOf context trees) (hrepeated : context.repeated = true) :
    leaf.isRepeated = true := by
  rw [leavesOf_eq_map] at h
  obtain ⟨inner, _, rfl⟩ := List.mem_map.mp h
  simp [Leaf.isRepeated, Leaf.within, ParticleContext.merge, hrepeated]

theorem isOptional_of_mem_leavesOf {context : ParticleContext} {trees : List ContentTree}
    {leaf : Leaf} (h : leaf ∈ leavesOf context trees) (hoptional : context.optional = true) :
    leaf.isOptional = true := by
  rw [leavesOf_eq_map] at h
  obtain ⟨inner, _, rfl⟩ := List.mem_map.mp h
  simp [Leaf.isOptional, Leaf.within, ParticleContext.merge, hoptional]

theorem bounds_element (number : Nat) (id : ElementId) (occurs : Occurs)
    (context : ParticleContext) :
    Leaf.Bounds ⟨number, id, occurs, context⟩ (occurs.copies {[number]}) where
  most hrepeated word hword := by
    have honce : occurs.isRepeated = false := (Bool.or_eq_false_iff.mp hrepeated).1
    apply count_copies_le honce _ hword
    rintro part rfl
    simp
  least hoptional word hword := by
    have hsome : occurs.isEmptiable = false := (Bool.or_eq_false_iff.mp hoptional).1
    apply le_count_copies hsome _ hword
    rintro part rfl
    simp

/-- Bounds of an element in a member of a group hold in the group, as the context of the element
covers what the group says of its members. -/
theorem Leaf.Bounds.group {leaf : Leaf} {words : Language Nat} (h : leaf.Bounds words)
    {context : ParticleContext} {type : ModelType} {occurs : Occurs} {trees : List ContentTree}
    (hleaf : leaf ∈ leavesOf (context.within type occurs) trees)
    {before after : List (Language Nat)}
    (hothers : ∀ other ∈ before ++ after, Avoids leaf.number other) :
    leaf.Bounds (occurs.copies (type.join (before ++ words :: after))) where
  most hrepeated word hword := by
    have honce : occurs.isRepeated = false := by
      apply Bool.eq_false_iff.mpr
      intro htrue
      have hcontext : (context.within type occurs).repeated = true := by
        simp [ParticleContext.within, htrue]
      rw [isRepeated_of_mem_leavesOf hleaf hcontext] at hrepeated
      cases hrepeated
    apply count_copies_le honce _ hword
    intro round hround
    rcases count_join hothers hround with ⟨part, hpart, heq⟩ | ⟨_, hzero⟩
    · rw [heq]
      exact h.most hrepeated part hpart
    · rw [hzero]
      exact Nat.zero_le 1
  least hoptional word hword := by
    have hcontext : (context.within type occurs).optional = false := by
      apply Bool.eq_false_iff.mpr
      intro htrue
      rw [isOptional_of_mem_leavesOf hleaf htrue] at hoptional
      cases hoptional
    simp only [ParticleContext.within, Bool.or_eq_false_iff, beq_eq_false_iff_ne] at hcontext
    obtain ⟨⟨_, hsome⟩, hchoice⟩ := hcontext
    apply le_count_copies hsome _ hword
    intro round hround
    rcases count_join hothers hround with ⟨part, hpart, heq⟩ | ⟨htype, _⟩
    · rw [heq]
      exact h.least hoptional part hpart
    · exact absurd htype hchoice

theorem number_mem {tree : ContentTree} {context : ParticleContext} {leaf : Leaf}
    (h : leaf ∈ tree.leaves context) : leaf.number ∈ tree.elements.map Prod.fst := by
  rw [← map_entry_leaves context tree, List.map_map]
  exact List.mem_map_of_mem h

mutual

theorem bounds_leaf {context : ParticleContext} {leaf : Leaf} : (tree : ContentTree) →
    (tree.elements.map Prod.fst).Nodup → leaf ∈ tree.leaves context → leaf.Bounds tree.language
  | .element number id occurs, _, hleaf => by
      rw [leaves, List.mem_singleton] at hleaf
      rw [hleaf, language]
      exact bounds_element number id occurs context
  | .model type occurs trees, hnodup, hleaf => by
      obtain ⟨before, words, after, heq, hbounds, hothers⟩ := bounds_member trees hnodup hleaf
      rw [language, heq]
      exact hbounds.group hleaf hothers

/-- One of the trees has an element, with its bounds, and the others do not have it. -/
theorem bounds_member {context : ParticleContext} {leaf : Leaf} : (trees : List ContentTree) →
    ((elementsOf trees).map Prod.fst).Nodup → leaf ∈ leavesOf context trees →
      ∃ before words after, languages trees = before ++ words :: after ∧ leaf.Bounds words ∧
        ∀ other ∈ before ++ after, Avoids leaf.number other
  | [], _, hleaf => by
      cases hleaf
  | tree :: rest, hnodup, hleaf => by
      rw [elementsOf, List.map_append] at hnodup
      obtain ⟨hfirst, hrest, hdisjoint⟩ := List.nodup_append.mp hnodup
      rcases List.mem_append.mp hleaf with hhere | hlater
      · refine ⟨[], tree.language, languages rest, rfl, bounds_leaf tree hfirst hhere, ?_⟩
        apply avoids_languages rest
        intro hmem
        exact hdisjoint _ (number_mem hhere) _ hmem rfl
      · obtain ⟨before, words, after, heq, hbounds, hothers⟩ := bounds_member rest hrest hlater
        refine ⟨tree.language :: before, words, after, by rw [languages, heq]; rfl, hbounds, ?_⟩
        intro other hother
        rcases List.mem_cons.mp hother with rfl | hmem
        · apply avoids_language tree
          intro hmem
          have hnumber : leaf.number ∈ (elementsOf rest).map Prod.fst := by
            rw [← map_entry_leavesOf context rest, List.map_map]
            exact List.mem_map_of_mem hlater
          exact hdisjoint _ hmem _ hnumber rfl
        · exact hothers other hmem

end

end ContentTree

end SchemaBinding
