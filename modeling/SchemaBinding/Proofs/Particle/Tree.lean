import SchemaBinding.Resolution.Expansion
import SchemaBinding.Proofs.Outcome

namespace SchemaBinding

inductive ContentTree
  | element (number : Nat) (id : ElementId) (occurs : Occurs)
  | model (type : ModelType) (occurs : Occurs) (trees : List ContentTree)

namespace ContentTree

mutual

/-- The elements in order, each with its number. -/
def elements : ContentTree → List (Nat × ElementId)
  | .element number id _ => [(number, id)]
  | .model _ _ trees => elementsOf trees

def elementsOf : List ContentTree → List (Nat × ElementId)
  | [] => []
  | tree :: rest => tree.elements ++ elementsOf rest

end

/-- An element with its own bounds and with what encloses it. -/
structure Leaf where
  number : Nat
  id : ElementId
  occurs : Occurs
  context : ParticleContext

namespace Leaf

def entry (leaf : Leaf) : Nat × ElementId :=
  (leaf.number, leaf.id)

def within (outer : ParticleContext) (leaf : Leaf) : Leaf :=
  { leaf with context := leaf.context.merge outer }

def isRepeated (leaf : Leaf) : Bool :=
  leaf.occurs.isRepeated || leaf.context.repeated

def isOptional (leaf : Leaf) : Bool :=
  leaf.occurs.isEmptiable || leaf.context.optional

end Leaf

mutual

def leaves (context : ParticleContext) : ContentTree → List Leaf
  | .element number id occurs => [⟨number, id, occurs, context⟩]
  | .model type occurs trees => leavesOf (context.within type occurs) trees

def leavesOf (context : ParticleContext) : List ContentTree → List Leaf
  | [] => []
  | tree :: rest => tree.leaves context ++ leavesOf context rest

end

mutual

theorem map_entry_leaves (context : ParticleContext) :
    (tree : ContentTree) → (tree.leaves context).map Leaf.entry = tree.elements
  | .element _ _ _ => rfl
  | .model type occurs trees => map_entry_leavesOf (context.within type occurs) trees

theorem map_entry_leavesOf (context : ParticleContext) :
    (trees : List ContentTree) → (leavesOf context trees).map Leaf.entry = elementsOf trees
  | [] => rfl
  | tree :: rest => by
      rw [leavesOf, elementsOf, List.map_append, map_entry_leaves context tree,
        map_entry_leavesOf context rest]

end

end ContentTree

namespace ParticleContext

theorem within_merge (context outer : ParticleContext) (type : ModelType) (occurs : Occurs) :
    (context.within type occurs).merge outer = (context.merge outer).within type occurs := by
  simp only [within, merge, ParticleContext.mk.injEq]
  constructor
  · ac_rfl
  · ac_rfl

theorem default_merge (outer : ParticleContext) : merge {} outer = outer := by
  simp [merge]

end ParticleContext

namespace ContentTree

mutual

theorem leaves_merge (context outer : ParticleContext) : (tree : ContentTree) →
    tree.leaves (context.merge outer) = (tree.leaves context).map (Leaf.within outer)
  | .element _ _ _ => rfl
  | .model type occurs trees => by
      rw [leaves, leaves, ← ParticleContext.within_merge]
      exact leavesOf_merge (context.within type occurs) outer trees

theorem leavesOf_merge (context outer : ParticleContext) : (trees : List ContentTree) →
    leavesOf (context.merge outer) trees = (leavesOf context trees).map (Leaf.within outer)
  | [] => rfl
  | tree :: rest => by
      rw [leavesOf, leavesOf, List.map_append, leaves_merge context outer tree,
        leavesOf_merge context outer rest]

end

theorem leavesOf_eq_map (context : ParticleContext) (trees : List ContentTree) :
    leavesOf context trees = (leavesOf {} trees).map (Leaf.within context) := by
  have h := leavesOf_merge {} context trees
  rw [ParticleContext.default_merge] at h
  exact h

end ContentTree

/-! Writing groups out. -/

namespace SchemaSet

mutual

/-- The tree of a particle, its elements numbered from a start on. A group used by name stands
for the particle of the group, as often as the use says. -/
inductive Expands (set : SchemaSet) : Nat → Particle → ContentTree → Prop
  | element {start : Nat} {id : ElementId} {written : ElementDecl} :
      set.elementDecl id = .ok written →
        Expands set start (.element id) (.element start id written.occurs)
  | model {start : Nat} {type : ModelType} {occurs : Occurs} {particles : List Particle}
      {trees : List ContentTree} :
      ExpandsAll set start particles trees →
        Expands set start (.model type occurs particles) (.model type occurs trees)
  | group {start : Nat} {use : GroupUse} {occurs : Occurs} {id : GroupId}
      {definition : GroupDef} {trees : List ContentTree} :
      set.resolve .group use.name use.span = .ok id → set.groupDef id = .ok definition →
        ExpandsAll set start definition.particle.toList trees →
          Expands set start (.group use occurs) (.model .sequence occurs trees)

inductive ExpandsAll (set : SchemaSet) : Nat → List Particle → List ContentTree → Prop
  | nil {start : Nat} : ExpandsAll set start [] []
  | cons {start : Nat} {particle : Particle} {rest : List Particle} {tree : ContentTree}
      {trees : List ContentTree} :
      Expands set start particle tree →
        ExpandsAll set (start + tree.elements.length) rest trees →
          ExpandsAll set start (particle :: rest) (tree :: trees)

end

variable {set : SchemaSet}

mutual

theorem Expands.unique {start : Nat} {particle : Particle} {first second : ContentTree} :
    set.Expands start particle first → set.Expands start particle second → first = second
  | .element hwritten, .element hwritten' => by
      cases eq_of_ok hwritten hwritten'
      rfl
  | .model htrees, .model htrees' => by
      rw [htrees.unique htrees']
  | .group hid hdefinition htrees, .group hid' hdefinition' htrees' => by
      cases eq_of_ok hid hid'
      cases eq_of_ok hdefinition hdefinition'
      rw [htrees.unique htrees']

theorem ExpandsAll.unique {start : Nat} {particles : List Particle}
    {first second : List ContentTree} :
    set.ExpandsAll start particles first → set.ExpandsAll start particles second →
      first = second
  | .nil, .nil => rfl
  | .cons htree hrest, .cons htree' hrest' => by
      have hsame := htree.unique htree'
      subst hsame
      rw [hrest.unique hrest']

end

theorem Expands.iff_eq {start : Nat} {particle : Particle} {tree : ContentTree}
    (h : set.Expands start particle tree) (other : ContentTree) :
    set.Expands start particle other ↔ other = tree := by
  constructor
  · intro hother
    exact hother.unique h
  · rintro rfl
    exact h

mutual

theorem Expands.numbers {start : Nat} {particle : Particle} {tree : ContentTree} :
    set.Expands start particle tree →
      tree.elements.map Prod.fst = List.range' start tree.elements.length
  | .element _ => rfl
  | .model htrees => htrees.numbers
  | .group _ _ htrees => htrees.numbers

theorem ExpandsAll.numbers {start : Nat} {particles : List Particle} {trees : List ContentTree} :
    set.ExpandsAll start particles trees →
      (ContentTree.elementsOf trees).map Prod.fst =
        List.range' start (ContentTree.elementsOf trees).length
  | .nil => rfl
  | .cons htree hrest => by
      rw [ContentTree.elementsOf, List.map_append, htree.numbers, hrest.numbers,
        List.length_append, List.range'_append_1]

end

theorem Expands.number_eq {start : Nat} {particle : Particle} {tree : ContentTree}
    (h : set.Expands start particle tree) {context : ParticleContext} {index : Nat}
    {leaf : ContentTree.Leaf} (hleaf : (tree.leaves context)[index]? = some leaf) :
    leaf.number = start + index := by
  have hnumbers := h.numbers
  rw [← ContentTree.map_entry_leaves context tree, List.map_map] at hnumbers
  have hnumber := congrArg (fun numbers : List Nat => numbers[index]?) hnumbers
  simp only [List.getElem?_map, hleaf, Option.map_some] at hnumber
  obtain ⟨_, heq⟩ := List.getElem?_eq_some_iff.mp hnumber.symm
  rw [List.getElem_range', Nat.one_mul] at heq
  exact heq.symm

mutual

theorem Expands.written {start : Nat} {particle : Particle} {tree : ContentTree}
    {context : ParticleContext} {leaf : ContentTree.Leaf} :
    set.Expands start particle tree → leaf ∈ tree.leaves context →
      ∃ written, set.elementDecl leaf.id = .ok written ∧ leaf.occurs = written.occurs
  | .element hwritten, hleaf => by
      rw [ContentTree.leaves, List.mem_singleton] at hleaf
      subst hleaf
      exact ⟨_, hwritten, rfl⟩
  | .model htrees, hleaf => htrees.written hleaf
  | .group _ _ htrees, hleaf => htrees.written hleaf

theorem ExpandsAll.written {start : Nat} {particles : List Particle} {trees : List ContentTree}
    {context : ParticleContext} {leaf : ContentTree.Leaf} : set.ExpandsAll start particles trees →
      leaf ∈ ContentTree.leavesOf context trees →
        ∃ written, set.elementDecl leaf.id = .ok written ∧ leaf.occurs = written.occurs
  | .nil, hleaf => by
      cases hleaf
  | .cons htree hrest, hleaf => by
      rcases List.mem_append.mp hleaf with hhere | hlater
      · exact htree.written hhere
      · exact hrest.written hlater

end

end SchemaSet

end SchemaBinding
