import SchemaBinding.Proofs.Particle.Tree
import SchemaBinding.Proofs.Resolution.Query
import Mathlib.Data.List.Forall2

namespace SchemaBinding

/-- The member for an element of a tree. -/
def ContentTree.Leaf.Gives (set : SchemaSet) (leaf : ContentTree.Leaf) (member : Member) : Prop :=
  ∃ name, set.nameOf .element leaf.id = .ok name ∧
    member = ⟨Identifier.exported name, .declaredElement leaf.id leaf.context⟩

theorem ContentTree.Leaf.Gives.within {set : SchemaSet} {leaf : ContentTree.Leaf}
    {member : Member} (h : leaf.Gives set member) (outer : ParticleContext) :
    (leaf.within outer).Gives set (member.within outer) := by
  obtain ⟨name, hname, rfl⟩ := h
  exact ⟨name, hname, rfl⟩

namespace SchemaSet

variable {set : SchemaSet}

theorem declared?_of_targetOf {kind : SymbolKind} {id : Id kind} {target : Target kind}
    (h : set.targetOf kind id = .ok target) : ∃ found, set.declared? kind id = some found := by
  rw [targetOf, SchemaSet.target] at h
  split at h
  case isTrue hseen => cases hseen
  case isFalse =>
      split at h
      case h_1 => cases h
      case h_2 hfound => exact ⟨_, hfound⟩
      case h_3 hfound => exact ⟨_, hfound⟩

theorem exists_elementDecl_of_nameOf {id : ElementId} {name : String}
    (h : set.nameOf .element id = .ok name) : ∃ written, set.elementDecl id = .ok written := by
  simp only [nameOf, bind_eq_ok_iff] at h
  obtain ⟨target, htarget, _⟩ := h
  obtain ⟨found, hfound⟩ := declared?_of_targetOf htarget
  simp only [declared?, Option.map_eq_some_iff] at hfound
  obtain ⟨written, hwritten, _⟩ := hfound
  exact ⟨written, by rw [elementDecl, hwritten]⟩

def GroupExpands (set : SchemaSet) (id : GroupId) (found : List Member) : Prop :=
  ∀ start, ∃ definition trees, set.groupDef id = .ok definition ∧
    set.ExpandsAll start definition.particle.toList trees ∧
    List.Forall₂ (ContentTree.Leaf.Gives set) (ContentTree.leavesOf {} trees) found

end SchemaSet

namespace Rules

open SchemaSet

variable {set : SchemaSet} {members : GroupId → Except Error (List Member)}

mutual

theorem expands_of_expandWith {start : Nat} {context : ParticleContext} {found : List Member} :
    (particle : Particle) →
    (∀ use ∈ particle.uses, ∀ id inner, set.resolve .group use.name use.span = .ok id →
      members id = .ok inner → set.GroupExpands id inner) →
    expandWith set set.elementName members context particle = .ok found →
    ∃ tree, set.Expands start particle tree ∧
      List.Forall₂ (ContentTree.Leaf.Gives set) (tree.leaves context) found
  | .element id, _, h => by
      simp only [expandWith, bind_eq_ok_iff] at h
      obtain ⟨name, hname, heq⟩ := h
      cases heq
      obtain ⟨written, hwritten⟩ := exists_elementDecl_of_nameOf hname
      exact ⟨.element start id written.occurs, .element hwritten, .cons ⟨name, hname, rfl⟩ .nil⟩
  | .model type occurs particles, hgroups, h => by
      rw [expandWith] at h
      rw [Particle.uses] at hgroups
      obtain ⟨trees, htrees, hfound⟩ := expandsAll_of_expandAllWith particles hgroups h
      exact ⟨.model type occurs trees, .model htrees, hfound⟩
  | .group use occurs, hgroups, h => by
      simp only [expandWith, given_eq, bind_eq_ok_iff] at h
      obtain ⟨id, hid, inner, hinner, heq⟩ := h
      cases heq
      have huse : use ∈ (Particle.group use occurs).uses := by simp [Particle.uses]
      obtain ⟨definition, trees, hdefinition, htrees, hgives⟩ :=
        hgroups use huse id inner hid hinner start
      refine ⟨.model .sequence occurs trees, .group hid hdefinition htrees, ?_⟩
      rw [ContentTree.leaves, ContentTree.leavesOf_eq_map, List.forall₂_map_left_iff,
        List.forall₂_map_right_iff]
      exact hgives.imp fun _ _ h => h.within _

theorem expandsAll_of_expandAllWith {start : Nat} {context : ParticleContext}
    {found : List Member} : (particles : List Particle) →
    (∀ use ∈ Particle.usesAll particles, ∀ id inner,
      set.resolve .group use.name use.span = .ok id →
        members id = .ok inner → set.GroupExpands id inner) →
    expandAllWith set set.elementName members context particles = .ok found →
    ∃ trees, set.ExpandsAll start particles trees ∧
      List.Forall₂ (ContentTree.Leaf.Gives set) (ContentTree.leavesOf context trees) found
  | [], _, h => by
      rw [expandAllWith] at h
      cases h
      exact ⟨[], .nil, .nil⟩
  | particle :: rest, hgroups, h => by
      simp only [expandAllWith, bind_eq_ok_iff] at h
      obtain ⟨first, hfirst, others, hothers, heq⟩ := h
      cases heq
      simp only [Particle.usesAll, List.mem_append] at hgroups
      obtain ⟨tree, htree, hgives⟩ := expands_of_expandWith particle
        (fun use huse => hgroups use (.inl huse)) hfirst
      obtain ⟨trees, htrees, hmore⟩ := expandsAll_of_expandAllWith rest
        (fun use huse => hgroups use (.inr huse)) hothers
      exact ⟨tree :: trees, .cons htree htrees, List.rel_append hgives hmore⟩

end

theorem groupExpands_of_members {id : GroupId} {found : List Member}
    (h : set.answers.members id = .ok found) : set.GroupExpands id found := by
  apply Rule.answer_induction (motive := set.GroupExpands) _ h
  intro id found happly hneeded start
  change Rules.members set set.elementName set.membersRule.answer id = .ok found at happly
  simp only [Rules.members, given_eq, bind_eq_ok_iff] at happly
  obtain ⟨definition, hdefinition, hmembers⟩ := happly
  refine ⟨definition, ?_⟩
  cases hparticle : definition.particle with
  | none =>
      rw [hparticle] at hmembers
      cases hmembers
      exact ⟨[], hdefinition, .nil, .nil⟩
  | some particle =>
      rw [hparticle] at hmembers
      have hgroups : ∀ use ∈ particle.uses, ∀ next inner,
          set.resolve .group use.name use.span = .ok next →
            set.membersRule.answer next = .ok inner → set.GroupExpands next inner := by
        intro use huse next inner hnext hinner
        exact hneeded next inner ⟨definition, particle, use, hdefinition, hparticle, huse, hnext⟩
          hinner
      obtain ⟨tree, htree, hgives⟩ := expands_of_expandWith particle hgroups hmembers
      refine ⟨[tree], hdefinition, .cons htree .nil, ?_⟩
      rw [ContentTree.leavesOf, ContentTree.leavesOf, List.append_nil]
      exact hgives

/-- A particle that can be written out has a tree, and its members are those of the tree. -/
theorem exists_expands {particle : Particle} {context : ParticleContext} {found : List Member}
    (h : expandWith set set.answers.elementName set.answers.members context particle = .ok found)
    (start : Nat) :
    ∃ tree, set.Expands start particle tree ∧
      List.Forall₂ (ContentTree.Leaf.Gives set) (tree.leaves context) found :=
  expands_of_expandWith particle (fun _ _ _ _ _ => groupExpands_of_members) h

end Rules

end SchemaBinding
