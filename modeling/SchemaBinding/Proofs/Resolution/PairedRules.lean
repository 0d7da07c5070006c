import SchemaBinding.Proofs.Resolution.Paired

namespace SchemaBinding

inductive MemberSource.Matches (pairing : Pairing) : MemberSource → MemberSource → Prop
  | declaredAttribute {a b : AttributeId} : pairing.id a b →
      Matches pairing (.declaredAttribute a) (.declaredAttribute b)
  | declaredElement {a b : ElementId} (context : ParticleContext) : pairing.id a b →
      Matches pairing (.declaredElement a context) (.declaredElement b context)

structure Member.Matches (pairing : Pairing) (member other : Member) : Prop where
  name : member.name = other.name
  source : member.source.Matches pairing other.source

structure Content.Matches (pairing : Pairing) (content other : Content) : Prop where
  base : Option.Rel pairing.id content.base other.base
  text : content.text = other.text
  members : List.Forall₂ (Member.Matches pairing) content.members other.members
  fieldNames : content.fieldNames = other.fieldNames

variable {pairing : Pairing} {first second : SchemaSet}

theorem Member.Matches.within {member other : Member} (h : member.Matches pairing other)
    (outer : ParticleContext) : (member.within outer).Matches pairing (other.within outer) := by
  obtain ⟨name, source⟩ := member
  obtain ⟨name', source'⟩ := other
  obtain ⟨hname, hsource⟩ := h
  cases hsource with
  | declaredAttribute hpaired => exact ⟨hname, .declaredAttribute hpaired⟩
  | declaredElement context hpaired => exact ⟨hname, .declaredElement (context.merge outer) hpaired⟩

theorem Content.Matches.add {content other : Content} (h : content.Matches pairing other)
    {member member' : Member} (hmember : member.Matches pairing member') :
    (content.add member).Matches pairing (other.add member') := by
  unfold Content.add
  rw [h.fieldNames, hmember.name]
  split
  · exact h
  · exact ⟨h.base, h.text, List.rel_append h.members (.cons hmember .nil), rfl⟩

theorem Content.Matches.addAll {content other : Content} (h : content.Matches pairing other)
    {members members' : List Member}
    (hmembers : List.Forall₂ (Member.Matches pairing) members members') :
    (content.addAll members).Matches pairing (other.addAll members') := by
  induction hmembers generalizing content other with
  | nil => exact h
  | cons hmember _ ih => exact ih (h.add hmember)

namespace SchemaSet.Paired

variable (h : first.Paired pairing second)

include h

section

variable {ask ask' : TypeId → Except Error Scalar}
  (hask : ∀ a b, pairing.id a b → h.Parallel Eq (ask a) (ask' b))

include hask

theorem scalarAt {target other : TypeTarget} (htarget : target.Matches pairing other) :
    h.Parallel Eq (Rules.scalarAt ask target) (Rules.scalarAt ask' other) := by
  cases htarget with
  | builtin type => exact .ok rfl
  | simple hpaired => exact hask _ _ hpaired
  | complex hpaired => exact hask _ _ hpaired

theorem unionScalar {span span' : Span} (hspan : span.Matches pairing span')
    (known : Option Scalar) {members members' : List TypeRef}
    (hmembers : List.Forall₂ (TypeRef.Matches pairing) members members') :
    h.Parallel Eq (Rules.unionScalar first ask span known members)
      (Rules.unionScalar second ask' span' known members') := by
  induction hmembers generalizing known with
  | nil => exact .ok rfl
  | cons hmember _ ih =>
      rw [Rules.unionScalar, Rules.unionScalar, given_eq, given_eq]
      apply (h.resolveTypeRef hmember hspan).bind
      intro target target' htarget
      apply (h.scalarAt hask htarget).bind
      rintro found _ rfl
      exact ih _

theorem simpleScalar {span span' : Span} (hspan : span.Matches pairing span')
    {derivation derivation' : SimpleDerivation}
    (hderivation : derivation.Matches pairing derivation') :
    h.Parallel Eq (Rules.simpleScalar first ask span derivation)
      (Rules.simpleScalar second ask' span' derivation') := by
  cases hderivation with
  | restriction facets hbase =>
      rw [Rules.simpleScalar, Rules.simpleScalar, given_eq, given_eq]
      exact (h.resolveTypeRef hbase hspan).bind fun _ _ => h.scalarAt hask
  | list hitem =>
      rw [Rules.simpleScalar, Rules.simpleScalar, given_eq, given_eq]
      exact (h.resolveTypeRef hitem hspan).bind fun _ _ _ => .ok rfl
  | union hmembers =>
      exact (h.unionScalar hask hspan none hmembers).map fun _ _ heq => heq ▸ rfl

omit hask in
theorem contentBase {derivation derivation' : Derivation}
    (hderivation : derivation.Matches pairing derivation') :
    h.Parallel (TypeTarget.Matches pairing) (Rules.contentBase first derivation)
      (Rules.contentBase second derivation') := by
  obtain ⟨method, base, container, inlineSimple, facets, span⟩ := derivation
  obtain ⟨method', base', container', inlineSimple', facets', span'⟩ := derivation'
  obtain ⟨rfl, rfl, _, hinline, _, hspan⟩ := hderivation
  cases method with
  | extension => exact h.resolveTypeName _ hspan
  | restriction =>
      cases hinline with
      | none => exact h.resolveTypeName _ hspan
      | some hpaired => exact h.typeTarget hpaired

theorem bodyScalar {type type' : TypeDef} (htype : type.Matches pairing type') :
    h.Parallel Eq (Rules.bodyScalar first ask type) (Rules.bodyScalar second ask' type') := by
  obtain ⟨name, space, owner, documentation, span, body⟩ := type
  obtain ⟨name', space', owner', documentation', span', body'⟩ := type'
  obtain ⟨rfl, _, rfl, _, hspan, hbody⟩ := htype
  cases hbody with
  | simple hderivation => exact h.simpleScalar hask hspan hderivation
  | complex mixed hcontent =>
      cases hcontent with
      | simple hderivation =>
          simp only [Rules.bodyScalar, given_eq]
          exact (h.contentBase hderivation).bind fun _ _ => h.scalarAt hask
      | direct _ =>
          cases mixed with
          | true => exact .ok rfl
          | false => exact .error (.malformed _ hspan)
      | complex _ =>
          cases mixed with
          | true => exact .ok rfl
          | false => exact .error (.malformed _ hspan)

theorem scalar {a b : TypeId} (hpaired : pairing.id a b) :
    h.Parallel Eq (Rules.scalar first ask a) (Rules.scalar second ask' b) := by
  rw [Rules.scalar, Rules.scalar, given_eq, given_eq]
  exact (h.typeDef hpaired).bind fun _ _ => h.bodyScalar hask

end

section

variable {ask ask' : AttributeGroupId → Except Error (List AttributeId)}
  (hask : ∀ a b, pairing.id a b →
    h.Parallel (List.Forall₂ pairing.id) (ask a) (ask' b))

include hask

theorem attributesAt {item item' : AttributeItem} (hitem : item.Matches pairing item') :
    h.Parallel (List.Forall₂ pairing.id) (Rules.attributesAt first ask item)
      (Rules.attributesAt second ask' item') := by
  cases hitem with
  | «attribute» hpaired => exact .ok (.cons hpaired .nil)
  | group huse =>
      rw [Rules.attributesAt, Rules.attributesAt, given_eq, given_eq, huse.name]
      exact (h.resolve .attributeGroup _ huse.span).bind hask

theorem expandItems {items items' : List AttributeItem}
    (hitems : List.Forall₂ (AttributeItem.Matches pairing) items items') :
    h.Parallel (List.Forall₂ pairing.id) (Rules.expandItems first ask items)
      (Rules.expandItems second ask' items') := by
  induction hitems with
  | nil => exact .ok .nil
  | cons hitem _ ih =>
      apply (h.attributesAt hask hitem).bind
      intro ids ids' hids
      exact Concurs.map ih fun _ _ hothers => List.rel_append hids hothers

theorem attributes {a b : AttributeGroupId} (hpaired : pairing.id a b) :
    h.Parallel (List.Forall₂ pairing.id) (Rules.attributes first ask a)
      (Rules.attributes second ask' b) := by
  rw [Rules.attributes, Rules.attributes, given_eq, given_eq]
  exact (h.attributeGroupDef hpaired).bind fun _ _ hgroup =>
    h.expandItems hask hgroup.attributes

end

section

variable {name name' : ElementId → Except Error String}
  {ask ask' : GroupId → Except Error (List Member)}

omit h

mutual

theorem expandWith (h : first.Paired pairing second)
    (hname : ∀ a b, pairing.id a b → h.Parallel Eq (name a) (name' b))
    (hask : ∀ a b, pairing.id a b →
      h.Parallel (List.Forall₂ (Member.Matches pairing)) (ask a) (ask' b))
    (context : ParticleContext) : (particle particle' : Particle) →
    particle.Matches pairing particle' →
    h.Parallel (List.Forall₂ (Member.Matches pairing))
      (Rules.expandWith first name ask context particle)
      (Rules.expandWith second name' ask' context particle')
  | .element a, _, hparticle => by
      cases hparticle with
      | @element _ b hpaired =>
          rw [Rules.expandWith, Rules.expandWith]
          apply (hname a b hpaired).map
          rintro found _ rfl
          exact .cons ⟨rfl, .declaredElement context hpaired⟩ .nil
  | .model type occurs particles, _, hparticle => by
      cases hparticle with
      | @model _ _ _ others hparticles =>
          rw [Rules.expandWith, Rules.expandWith]
          exact expandAllWith h hname hask (context.within type occurs) particles others hparticles
  | .group use occurs, _, hparticle => by
      cases hparticle with
      | group _ huse =>
          rw [Rules.expandWith, Rules.expandWith, given_eq, given_eq, huse.name]
          apply (h.resolve .group _ huse.span).bind
          intro a b hpaired
          apply (hask a b hpaired).map
          intro found found' hfound
          rw [List.forall₂_map_left_iff, List.forall₂_map_right_iff]
          exact hfound.imp fun _ _ hmember => hmember.within _

theorem expandAllWith (h : first.Paired pairing second)
    (hname : ∀ a b, pairing.id a b → h.Parallel Eq (name a) (name' b))
    (hask : ∀ a b, pairing.id a b →
      h.Parallel (List.Forall₂ (Member.Matches pairing)) (ask a) (ask' b))
    (context : ParticleContext) : (particles others : List Particle) →
    List.Forall₂ (Particle.Matches pairing) particles others →
    h.Parallel (List.Forall₂ (Member.Matches pairing))
      (Rules.expandAllWith first name ask context particles)
      (Rules.expandAllWith second name' ask' context others)
  | [], _, hparticles => by
      cases hparticles
      rw [Rules.expandAllWith, Rules.expandAllWith]
      exact .ok .nil
  | particle :: rest, _, hparticles => by
      cases hparticles with
      | @cons _ particle' _ rest' hparticle hrest =>
          rw [Rules.expandAllWith, Rules.expandAllWith]
          apply (expandWith h hname hask context particle particle' hparticle).bind
          intro found found' hfound
          apply Concurs.map (expandAllWith h hname hask context rest rest' hrest)
          intro more more' hmore
          exact List.rel_append hfound hmore

end

include h

theorem members (hname : ∀ a b, pairing.id a b → h.Parallel Eq (name a) (name' b))
    (hask : ∀ a b, pairing.id a b →
      h.Parallel (List.Forall₂ (Member.Matches pairing)) (ask a) (ask' b))
    {a b : GroupId} (hpaired : pairing.id a b) :
    h.Parallel (List.Forall₂ (Member.Matches pairing)) (Rules.members first name ask a)
      (Rules.members second name' ask' b) := by
  rw [Rules.members, Rules.members, given_eq, given_eq]
  apply (h.groupDef hpaired).bind
  intro group group' hgroup
  have hparticle := hgroup.particle
  generalize group.particle = particle at hparticle
  generalize group'.particle = particle' at hparticle
  cases hparticle with
  | none => exact .ok .nil
  | some hmatches => exact h.expandWith hname hask {} _ _ hmatches

end

end SchemaSet.Paired

/-- Answers for two sets that are related. -/
structure SchemaSet.Paired.Serves (h : first.Paired pairing second)
    (answers other : Answers (Except Error)) : Prop where
  elementTarget : ∀ a b, pairing.id a b →
    h.Parallel (SchemaSet.Target.Matches pairing) (answers.elementTarget a) (other.elementTarget b)
  elementType : ∀ a b, pairing.id a b →
    h.Parallel (TypeTarget.Matches pairing) (answers.elementType a) (other.elementType b)
  attributeTarget : ∀ a b, pairing.id a b →
    h.Parallel (SchemaSet.Target.Matches pairing) (answers.attributeTarget a)
      (other.attributeTarget b)
  attributeType : ∀ a b, pairing.id a b →
    h.Parallel (TypeTarget.Matches pairing) (answers.attributeType a) (other.attributeType b)
  scalar : ∀ a b, pairing.id a b → h.Parallel Eq (answers.scalar a) (other.scalar b)
  content : ∀ a b, pairing.id a b →
    h.Parallel (Content.Matches pairing) (answers.content a) (other.content b)
  attributes : ∀ a b, pairing.id a b →
    h.Parallel (List.Forall₂ pairing.id) (answers.attributes a) (other.attributes b)
  members : ∀ a b, pairing.id a b →
    h.Parallel (List.Forall₂ (Member.Matches pairing)) (answers.members a) (other.members b)

namespace SchemaSet.Paired.Serves

variable {h : first.Paired pairing second} {answers other : Answers (Except Error)}
  (hanswers : h.Serves answers other)

include hanswers

theorem elementName (a b : ElementId) (hpaired : pairing.id a b) :
    h.Parallel Eq (answers.elementName a) (other.elementName b) :=
  (hanswers.elementTarget a b hpaired).map fun _ _ => SchemaSet.Target.Matches.name

theorem attributeName (a b : AttributeId) (hpaired : pairing.id a b) :
    h.Parallel Eq (answers.attributeName a) (other.attributeName b) :=
  (hanswers.attributeTarget a b hpaired).map fun _ _ => SchemaSet.Target.Matches.name

end SchemaSet.Paired.Serves

namespace SchemaSet.Paired

variable (h : first.Paired pairing second)

include h

section

variable {answers other : Answers (Except Error)} (hanswers : h.Serves answers other)

include hanswers

/-! Contents. -/

theorem attributeMember? {a b : AttributeId} (hpaired : pairing.id a b) :
    h.Parallel (Option.Rel (Member.Matches pairing)) (Rules.attributeMember? first answers a)
      (Rules.attributeMember? second other b) := by
  rw [Rules.attributeMember?, Rules.attributeMember?, given_eq, given_eq]
  apply (h.attributeDecl hpaired).bind
  intro declared declared' hdeclared
  rw [hdeclared.use]
  split
  · exact .ok .none
  · apply (hanswers.attributeName a b hpaired).map
    rintro name _ rfl
    exact .some ⟨rfl, .declaredAttribute hpaired⟩

theorem attributeMembers {ids ids' : List AttributeId} (hids : List.Forall₂ pairing.id ids ids') :
    h.Parallel (List.Forall₂ (Member.Matches pairing)) (Rules.attributeMembers first answers ids)
      (Rules.attributeMembers second other ids') := by
  induction hids with
  | nil => exact .ok .nil
  | cons hpaired _ ih =>
      apply (h.attributeMember? hanswers hpaired).bind
      intro member member' hmember
      apply Concurs.map ih
      intro members members' hmembers
      cases hmember with
      | none => exact hmembers
      | some hmatches => exact .cons hmatches hmembers

theorem ownMembers {container container' : Container}
    (hcontainer : container.Matches pairing container') :
    h.Parallel (List.Forall₂ (Member.Matches pairing)) (Rules.ownMembers first answers container)
      (Rules.ownMembers second other container') := by
  obtain ⟨items, particle⟩ := container
  obtain ⟨items', particle'⟩ := container'
  obtain ⟨hitems, hparticle⟩ := hcontainer
  apply (h.expandItems hanswers.attributes hitems).bind
  intro ids ids' hids
  apply (h.attributeMembers hanswers hids).bind
  intro own own' hown
  cases hparticle with
  | none => exact .ok (List.rel_append hown .nil)
  | some hmatches =>
      apply Concurs.map
        (h.expandWith hanswers.elementName hanswers.members {} _ _ hmatches)
      intro elements elements' helements
      exact List.rel_append hown helements

theorem flattenedMembers {target target' : TypeTarget} (htarget : target.Matches pairing target') :
    h.Parallel (List.Forall₂ (Member.Matches pairing)) (Rules.flattenedMembers answers target)
      (Rules.flattenedMembers other target') := by
  cases htarget with
  | builtin type => exact .ok .nil
  | simple _ => exact .ok .nil
  | complex hpaired => exact (hanswers.content _ _ hpaired).map fun _ _ => Content.Matches.members

theorem extended {derivation derivation' : Derivation}
    (hderivation : derivation.Matches pairing derivation') {target target' : TypeTarget}
    (htarget : target.Matches pairing target') :
    h.Parallel (Content.Matches pairing) (Rules.extended first answers derivation target)
      (Rules.extended second other derivation' target') := by
  cases htarget with
  | builtin type =>
      simp only [Rules.extended, hderivation.base]
      split
      · exact .ok ⟨.none, rfl, .nil, rfl⟩
      · exact .error (.malformed _ hderivation.span)
  | simple _ =>
      simp only [Rules.extended, hderivation.base]
      exact .error (.malformed _ hderivation.span)
  | complex hpaired =>
      apply (hanswers.content _ _ hpaired).map
      intro content content' hcontent
      exact ⟨.some hpaired, rfl, .nil, hcontent.fieldNames⟩

theorem simpleContent {a b : TypeId} (hpaired : pairing.id a b)
    {derivation derivation' : Derivation} (hderivation : derivation.Matches pairing derivation') :
    h.Parallel (Content.Matches pairing) (Rules.simpleContent first answers a derivation)
      (Rules.simpleContent second other b derivation') := by
  apply (hanswers.scalar a b hpaired).bind
  rintro scalar _ rfl
  rw [given_eq, given_eq, hderivation.base]
  apply (h.resolveTypeName _ hderivation.span).bind
  intro base base' hbase
  apply (h.flattenedMembers hanswers hbase).bind
  intro inherited inherited' hinherited
  apply Concurs.map (h.ownMembers hanswers hderivation.container)
  intro own own' hown
  rw [hderivation.facets]
  exact Content.Matches.addAll ⟨.none, rfl, .nil, rfl⟩ (List.rel_append hinherited hown)

theorem complexContent {derivation derivation' : Derivation}
    (hderivation : derivation.Matches pairing derivation') :
    h.Parallel (Content.Matches pairing) (Rules.complexContent first answers derivation)
      (Rules.complexContent second other derivation') := by
  rw [Rules.complexContent, Rules.complexContent, given_eq, given_eq, hderivation.base]
  apply (h.resolveTypeName _ hderivation.span).bind
  intro base base' hbase
  have hstart : h.Parallel (Content.Matches pairing)
      (Rules.contentStart first answers derivation base)
      (Rules.contentStart second other derivation' base') := by
    unfold Rules.contentStart
    rw [hderivation.method]
    split
    · exact h.extended hanswers hderivation hbase
    · exact .ok ⟨.none, rfl, .nil, rfl⟩
  apply hstart.bind
  intro start start' hmatches
  exact Concurs.map (h.ownMembers hanswers hderivation.container) fun _ _ => hmatches.addAll

theorem bodyContent {a b : TypeId} (hpaired : pairing.id a b) {type type' : TypeDef}
    (htype : type.Matches pairing type') :
    h.Parallel (Content.Matches pairing) (Rules.bodyContent first answers a type)
      (Rules.bodyContent second other b type') := by
  obtain ⟨name, space, owner, documentation, span, body⟩ := type
  obtain ⟨name', space', owner', documentation', span', body'⟩ := type'
  obtain ⟨rfl, _, rfl, _, hspan, hbody⟩ := htype
  cases hbody with
  | simple _ => exact .error (.malformed _ hspan)
  | complex mixed hcontent =>
      cases hcontent with
      | direct hcontainer =>
          exact Concurs.map (h.ownMembers hanswers hcontainer) fun _ _ =>
            Content.Matches.addAll ⟨.none, rfl, .nil, rfl⟩
      | simple hderivation => exact h.simpleContent hanswers hpaired hderivation
      | complex hderivation => exact h.complexContent hanswers hderivation

theorem content {a b : TypeId} (hpaired : pairing.id a b) :
    h.Parallel (Content.Matches pairing) (Rules.content first answers a)
      (Rules.content second other b) := by
  rw [Rules.content, Rules.content, given_eq, given_eq]
  exact (h.typeDef hpaired).bind fun _ _ => h.bodyContent hanswers hpaired

end

theorem scalar_answer (a b : TypeId) (hpaired : pairing.id a b) :
    h.Parallel Eq (first.scalarRule.answer a) (second.scalarRule.answer b) :=
  h.answer first.scalarRule second.scalarRule
    (fun _ _ hanswer _ _ => h.scalar hanswer) hpaired

theorem attributes_answer (a b : AttributeGroupId) (hpaired : pairing.id a b) :
    h.Parallel (List.Forall₂ pairing.id) (first.attributesRule.answer a)
      (second.attributesRule.answer b) :=
  h.answer first.attributesRule second.attributesRule
    (fun _ _ hanswer _ _ => h.attributes hanswer) hpaired

theorem members_answer (a b : GroupId) (hpaired : pairing.id a b) :
    h.Parallel (List.Forall₂ (Member.Matches pairing)) (first.membersRule.answer a)
      (second.membersRule.answer b) := by
  apply h.answer first.membersRule second.membersRule _ hpaired
  intro answer answer' hanswer _ _
  exact h.members (fun _ _ => h.nameOf (.inl rfl)) hanswer

theorem answersWith {content content' : TypeId → Except Error Content}
    (hcontent : ∀ a b, pairing.id a b →
      h.Parallel (Content.Matches pairing) (content a) (content' b)) :
    h.Serves (first.answersWith content) (second.answersWith content') where
  elementTarget _ _ := h.target (.inl rfl) .nil
  elementType _ _ := h.typeOf (.inl rfl)
  attributeTarget _ _ := h.target (.inr rfl) .nil
  attributeType _ _ := h.typeOf (.inr rfl)
  scalar := h.scalar_answer
  content := hcontent
  attributes := h.attributes_answer
  members := h.members_answer

theorem content_answer (a b : TypeId) (hpaired : pairing.id a b) :
    h.Parallel (Content.Matches pairing) (first.contentRule.answer a)
      (second.contentRule.answer b) :=
  h.answer first.contentRule second.contentRule
    (fun _ _ hanswer _ _ => h.content (h.answersWith hanswer)) hpaired

theorem answers : h.Serves first.answers second.answers :=
  h.answersWith h.content_answer

end SchemaSet.Paired

end SchemaBinding
