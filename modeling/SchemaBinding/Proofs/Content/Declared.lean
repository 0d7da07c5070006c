import SchemaBinding.Proofs.Particle.Expansion

namespace SchemaBinding

namespace SchemaSet

/-- Attributes in order, with the groups used by name written out in place. -/
inductive ListsAttributes (set : SchemaSet) : List AttributeItem → List AttributeId → Prop
  | nil : ListsAttributes set [] []
  | attribute {id : AttributeId} {rest : List AttributeItem} {others : List AttributeId} :
      ListsAttributes set rest others →
        ListsAttributes set (.attribute id :: rest) (id :: others)
  | group {use : GroupUse} {id : AttributeGroupId} {definition : AttributeGroupDef}
      {rest : List AttributeItem} {inner others : List AttributeId} :
      set.resolve .attributeGroup use.name use.span = .ok id →
        set.attributeGroupDef id = .ok definition →
          ListsAttributes set definition.attributes inner → ListsAttributes set rest others →
            ListsAttributes set (.group use :: rest) (inner ++ others)

def isProhibited (set : SchemaSet) (id : AttributeId) : Bool :=
  match set.attributeDecl id with
  | .ok written => written.use == .prohibited
  | .error _ => false

/-- The member for an attribute. -/
def AttributeGives (set : SchemaSet) (id : AttributeId) (member : Member) : Prop :=
  ∃ name, set.nameOf .attribute id = .ok name ∧
    member = ⟨Identifier.exported name, .declaredAttribute id⟩

/-- The members that a container declares: its attributes but the prohibited ones, and then the
elements of its particle. -/
def Declares (set : SchemaSet) (container : Container) (own : List Member) : Prop :=
  ∃ ids attributes trees elements,
    set.ListsAttributes container.attributes ids ∧
    List.Forall₂ set.AttributeGives (ids.filter fun id => !set.isProhibited id) attributes ∧
    set.ExpandsAll 0 container.particle.toList trees ∧
    List.Forall₂ (ContentTree.Leaf.Gives set) (ContentTree.leavesOf {} trees) elements ∧
    own = attributes ++ elements

variable {set : SchemaSet}

theorem ListsAttributes.unique {items : List AttributeItem} {first second : List AttributeId} :
    set.ListsAttributes items first → set.ListsAttributes items second → first = second
  | .nil, .nil => rfl
  | .attribute hrest, .attribute hrest' => by
      rw [hrest.unique hrest']
  | .group hid hdefinition hinner hrest, .group hid' hdefinition' hinner' hrest' => by
      cases eq_of_ok hid hid'
      cases eq_of_ok hdefinition hdefinition'
      rw [hinner.unique hinner', hrest.unique hrest']

theorem eq_of_named {kind : SymbolKind} {id : Id kind} {source : MemberSource}
    {first second : Member}
    (h : ∃ name, set.nameOf kind id = .ok name ∧ first = ⟨Identifier.exported name, source⟩)
    (h' : ∃ name, set.nameOf kind id = .ok name ∧ second = ⟨Identifier.exported name, source⟩) :
    first = second := by
  obtain ⟨name, hname, rfl⟩ := h
  obtain ⟨name', hname', rfl⟩ := h'
  cases eq_of_ok hname hname'
  rfl

theorem rightUnique_attributeGives : Relator.RightUnique set.AttributeGives :=
  fun _ _ _ => eq_of_named

theorem rightUnique_leafGives : Relator.RightUnique (ContentTree.Leaf.Gives set) :=
  fun _ _ _ => eq_of_named

theorem Declares.unique {container : Container} {first second : List Member}
    (h : set.Declares container first) (h' : set.Declares container second) :
    first = second := by
  obtain ⟨ids, attributes, trees, elements, hids, hattributes, htrees, helements, rfl⟩ := h
  obtain ⟨ids', attributes', trees', elements', hids', hattributes', htrees', helements', rfl⟩ := h'
  cases hids.unique hids'
  cases htrees.unique htrees'
  rw [List.right_unique_forall₂' rightUnique_attributeGives hattributes hattributes',
    List.right_unique_forall₂' rightUnique_leafGives helements helements']

end SchemaSet

namespace Rules

open SchemaSet

variable {set : SchemaSet}

theorem lists_of_expandItems {attributes : AttributeGroupId → Except Error (List AttributeId)}
    {items : List AttributeItem} {ids : List AttributeId}
    (hgroups : ∀ use, .group use ∈ items → ∀ id inner,
      set.resolve .attributeGroup use.name use.span = .ok id → attributes id = .ok inner →
        ∃ definition, set.attributeGroupDef id = .ok definition ∧
          set.ListsAttributes definition.attributes inner)
    (h : expandItems set attributes items = .ok ids) : set.ListsAttributes items ids := by
  induction items generalizing ids with
  | nil =>
      cases h
      exact .nil
  | cons item rest ih =>
      simp only [expandItems, bind_eq_ok_iff] at h
      obtain ⟨first, hfirst, others, hothers, heq⟩ := h
      cases heq
      have hrest := ih (fun use huse => hgroups use (List.mem_cons_of_mem item huse)) hothers
      cases item with
      | «attribute» id =>
          cases hfirst
          exact .attribute hrest
      | group use =>
          simp only [attributesAt, given_eq, bind_eq_ok_iff] at hfirst
          obtain ⟨id, hid, hinner⟩ := hfirst
          obtain ⟨definition, hdefinition, hlists⟩ :=
            hgroups use List.mem_cons_self id first hid hinner
          exact .group hid hdefinition hlists hrest

theorem exists_lists_of_attributes {id : AttributeGroupId} {ids : List AttributeId}
    (h : set.answers.attributes id = .ok ids) :
    ∃ definition, set.attributeGroupDef id = .ok definition ∧
      set.ListsAttributes definition.attributes ids := by
  apply Rule.answer_induction (motive := fun id ids =>
    ∃ definition, set.attributeGroupDef id = .ok definition ∧
      set.ListsAttributes definition.attributes ids) _ h
  intro id ids happly hneeded
  change Rules.attributes set set.attributesRule.answer id = .ok ids at happly
  simp only [Rules.attributes, given_eq, bind_eq_ok_iff] at happly
  obtain ⟨definition, hdefinition, hitems⟩ := happly
  refine ⟨definition, hdefinition, lists_of_expandItems ?_ hitems⟩
  intro use huse next inner hnext hinner
  exact hneeded next inner ⟨definition, use, hdefinition, huse, hnext⟩ hinner

theorem forall₂_of_attributeMembers {ids : List AttributeId} {members : List Member}
    (h : attributeMembers set set.answers ids = .ok members) :
    List.Forall₂ set.AttributeGives (ids.filter fun id => !set.isProhibited id) members := by
  induction ids generalizing members with
  | nil =>
      cases h
      exact .nil
  | cons id rest ih =>
      simp only [attributeMembers, bind_eq_ok_iff] at h
      obtain ⟨first, hfirst, others, hothers, heq⟩ := h
      cases heq
      have hrest := ih hothers
      simp only [attributeMember?, given_eq, bind_eq_ok_iff] at hfirst
      obtain ⟨written, hwritten, hfirst⟩ := hfirst
      split at hfirst
      case isTrue hprohibited =>
          cases hfirst
          rw [List.filter_cons_of_neg (by simp [isProhibited, hwritten, hprohibited])]
          exact hrest
      case isFalse hallowed =>
          simp only [bind_eq_ok_iff] at hfirst
          obtain ⟨name, hname, heq⟩ := hfirst
          cases heq
          rw [List.filter_cons_of_pos (by simp [isProhibited, hwritten, hallowed])]
          exact .cons ⟨name, hname, rfl⟩ hrest

theorem declares_of_ownMembers {container : Container} {own : List Member}
    (h : ownMembers set set.answers container = .ok own) : set.Declares container own := by
  simp only [ownMembers, bind_eq_ok_iff] at h
  obtain ⟨ids, hids, attributes, hattributes, h⟩ := h
  have hlists : set.ListsAttributes container.attributes ids :=
    lists_of_expandItems (fun _ _ _ _ _ => exists_lists_of_attributes) hids
  have hgives := forall₂_of_attributeMembers hattributes
  cases hparticle : container.particle with
  | none =>
      rw [hparticle] at h
      cases h
      exact ⟨ids, attributes, [], [], hlists, hgives, hparticle ▸ .nil, .nil, rfl⟩
  | some particle =>
      simp only [hparticle, bind_eq_ok_iff] at h
      obtain ⟨elements, helements, heq⟩ := h
      cases heq
      obtain ⟨tree, htree, hleaves⟩ := exists_expands helements 0
      refine ⟨ids, attributes, [tree], elements, hlists, hgives,
        hparticle ▸ .cons htree .nil, ?_, rfl⟩
      rw [ContentTree.leavesOf, ContentTree.leavesOf, List.append_nil]
      exact hleaves

end Rules

end SchemaBinding
