import SchemaBinding.Proofs.Resolution.Meaning

namespace SchemaBinding

namespace Rules

open SchemaSet

variable {set : SchemaSet}

theorem scalarAt_eq_of_id? {scalar : TypeId → Except Error Scalar} {target : TypeTarget}
    {next : TypeId} (h : target.id? = some next) : scalarAt scalar target = scalar next := by
  cases target with
  | builtin type => cases h
  | simple id =>
      cases h
      rfl
  | complex id =>
      cases h
      rfl

theorem unionScalar_needed {scalar : TypeId → Except Error Scalar} {span : Span}
    {known result : Option Scalar} {members : List TypeRef}
    (h : unionScalar set scalar span known members = .ok result) {member : TypeRef}
    (hmember : member ∈ members) {target : TypeTarget}
    (htarget : set.resolveTypeRef member span = .ok target) :
    ∃ other, scalarAt scalar target = .ok other := by
  induction members generalizing known with
  | nil => cases hmember
  | cons first rest ih =>
      simp only [unionScalar, given_eq, bind_eq_ok_iff] at h
      obtain ⟨found, hfound, scalar, hscalar, hrest⟩ := h
      rcases List.mem_cons.mp hmember with rfl | hlater
      · rw [htarget] at hfound
        cases hfound
        exact ⟨scalar, hscalar⟩
      · exact ih hrest hlater

theorem bodyScalar_needed {scalar : TypeId → Except Error Scalar} {type : TypeDef}
    {value : Scalar} (h : bodyScalar set scalar type = .ok value) {target : TypeTarget}
    (htarget : .ok target ∈ set.scalarSources type) :
    ∃ other, scalarAt scalar target = .ok other := by
  cases hbody : type.body with
  | simple derivation =>
      simp only [scalarSources, hbody] at htarget
      simp only [bodyScalar, hbody] at h
      cases derivation with
      | restriction base facets =>
          simp only [simpleScalar, given_eq, bind_eq_ok_iff] at h
          obtain ⟨found, hfound, hscalar⟩ := h
          have heq : Except.ok target = Except.ok found :=
            (List.mem_singleton.mp htarget).trans hfound
          cases heq
          exact ⟨value, hscalar⟩
      | list item => cases htarget
      | union members =>
          simp only [simpleScalar, bind_eq_ok_iff] at h
          obtain ⟨result, hresult, _⟩ := h
          obtain ⟨member, hmember, hfound⟩ := List.mem_map.mp htarget
          exact unionScalar_needed hresult hmember hfound
  | complex content mixed =>
      simp only [scalarSources, hbody] at htarget
      simp only [bodyScalar, hbody] at h
      cases content with
      | direct container => cases htarget
      | complex derivation => cases htarget
      | simple derivation =>
          simp only [given_eq, bind_eq_ok_iff] at h
          obtain ⟨found, hfound, hscalar⟩ := h
          have heq : Except.ok target = Except.ok found :=
            (List.mem_singleton.mp htarget).trans hfound
          cases heq
          exact ⟨value, hscalar⟩

theorem expandItems_needed {attributes : AttributeGroupId → Except Error (List AttributeId)}
    {items : List AttributeItem} {ids : List AttributeId}
    (h : expandItems set attributes items = .ok ids) {use : GroupUse}
    (huse : .group use ∈ items) {next : AttributeGroupId}
    (hnext : set.resolve .attributeGroup use.name use.span = .ok next) :
    ∃ other, attributes next = .ok other := by
  induction items generalizing ids with
  | nil => cases huse
  | cons item rest ih =>
      simp only [expandItems, bind_eq_ok_iff] at h
      obtain ⟨first, hfirst, others, hothers, _⟩ := h
      rcases List.mem_cons.mp huse with rfl | hlater
      · simp only [attributesAt, given_eq, bind_eq_ok_iff] at hfirst
        obtain ⟨found, hfound, hattributes⟩ := hfirst
        rw [hnext] at hfound
        cases hfound
        exact ⟨first, hattributes⟩
      · exact ih hothers hlater

section

variable {name : ElementId → Except Error String}
  {members : GroupId → Except Error (List Member)} {next : GroupId}

mutual

theorem expandWith_needed {context : ParticleContext} {found : List Member} :
    (particle : Particle) → expandWith set name members context particle = .ok found →
    (use : GroupUse) → use ∈ particle.uses →
    set.resolve .group use.name use.span = .ok next → ∃ other, members next = .ok other
  | .element _, _, _, huse, _ => by
      simp [Particle.uses] at huse
  | .model _ _ particles, h, use, huse, hnext => by
      rw [expandWith] at h
      rw [Particle.uses] at huse
      exact expandAllWith_needed particles h use huse hnext
  | .group used _, h, use, huse, hnext => by
      rw [Particle.uses, List.mem_singleton] at huse
      subst huse
      simp only [expandWith, given_eq, bind_eq_ok_iff] at h
      obtain ⟨id, hid, other, hother, _⟩ := h
      rw [hnext] at hid
      cases hid
      exact ⟨other, hother⟩

theorem expandAllWith_needed {context : ParticleContext} {found : List Member} :
    (particles : List Particle) → expandAllWith set name members context particles = .ok found →
    (use : GroupUse) → use ∈ Particle.usesAll particles →
    set.resolve .group use.name use.span = .ok next → ∃ other, members next = .ok other
  | [], _, _, huse, _ => by
      simp [Particle.usesAll] at huse
  | particle :: rest, h, use, huse, hnext => by
      simp only [expandAllWith, bind_eq_ok_iff] at h
      obtain ⟨first, hfirst, others, hothers, _⟩ := h
      rw [Particle.usesAll] at huse
      rcases List.mem_append.mp huse with hhere | hlater
      · exact expandWith_needed particle hfirst use hhere hnext
      · exact expandAllWith_needed rest hothers use hlater hnext

end

end

/-! Contents. -/

theorem content_needed {answers : Answers (Except Error)} {id : TypeId} {value : Content}
    (h : Rules.content set answers id = .ok value) {next : TypeId}
    (hneeds : set.ContentNeeds id next) : ∃ other, answers.content next = .ok other := by
  obtain ⟨type, derivation, htype, hlender, hbase⟩ := hneeds
  simp only [Rules.content, given_eq, htype, bind_eq_ok_iff, Except.ok.injEq] at h
  obtain ⟨_, rfl, hcontent⟩ := h
  unfold lender? at hlender
  split at hlender
  case h_1 found mixed hbody =>
      cases hlender
      simp only [bodyContent, hbody, simpleContent, given_eq, bind_eq_ok_iff] at hcontent
      obtain ⟨_, _, base, hfound, inherited, hinherited, _⟩ := hcontent
      rw [hbase] at hfound
      cases hfound
      simp only [flattenedMembers, bind_eq_ok_iff] at hinherited
      obtain ⟨other, hother, _⟩ := hinherited
      exact ⟨other, hother⟩
  case h_2 found mixed hbody =>
      split at hlender
      case isFalse => cases hlender
      case isTrue hmethod =>
          cases hlender
          simp only [bodyContent, hbody, complexContent, given_eq, bind_eq_ok_iff] at hcontent
          obtain ⟨base, hfound, start, hstart, _⟩ := hcontent
          rw [hbase] at hfound
          cases hfound
          simp only [contentStart, hmethod, extended, bind_eq_ok_iff] at hstart
          obtain ⟨other, hother, _⟩ := hstart
          exact ⟨other, hother⟩
  case h_3 => cases hlender

end Rules

namespace SchemaSet

variable (set : SchemaSet)

def scalarRule : Rule set .type Scalar where
  apply := Rules.scalar set
  Needs := set.ScalarNeeds
  index_lt := by
    rintro id next ⟨type, _, htype, _⟩
    exact index_lt_of_typeDef htype
  absent := by
    intro answer id hle
    rw [Rules.scalar, given_eq, typeDef_of_index_le hle]
    rfl
  congr := Rules.follows_scalar set Simulation.identity
  needed := by
    rintro answer id value h next ⟨type, target, htype, htarget, hnext⟩
    simp only [Rules.scalar, given_eq, htype, bind_eq_ok_iff, Except.ok.injEq] at h
    obtain ⟨_, rfl, hbody⟩ := h
    obtain ⟨other, hother⟩ := Rules.bodyScalar_needed hbody htarget
    exact ⟨other, (Rules.scalarAt_eq_of_id? hnext).symm.trans hother⟩

def attributesRule : Rule set .attributeGroup (List AttributeId) where
  apply := Rules.attributes set
  Needs := set.AttributesNeed
  index_lt := by
    rintro id next ⟨group, _, hgroup, _⟩
    exact index_lt_of_attributeGroupDef hgroup
  absent := by
    intro answer id hle
    rw [Rules.attributes, given_eq, attributeGroupDef_of_index_le hle]
    rfl
  congr := Rules.follows_attributes set Simulation.identity
  needed := by
    rintro answer id value h next ⟨group, use, hgroup, huse, hnext⟩
    simp only [Rules.attributes, given_eq, hgroup, bind_eq_ok_iff, Except.ok.injEq] at h
    obtain ⟨_, rfl, hitems⟩ := h
    exact Rules.expandItems_needed hitems huse hnext

def elementName (id : ElementId) : Except Error String := do
  return (← set.targetOf .element id).name

def membersRule : Rule set .group (List Member) where
  apply := Rules.members set set.elementName
  Needs := set.MembersNeed
  index_lt := by
    rintro id next ⟨group, _, _, hgroup, _⟩
    exact index_lt_of_groupDef hgroup
  absent := by
    intro answer id hle
    rw [Rules.members, given_eq, groupDef_of_index_le hle]
    rfl
  congr := Rules.follows_members set Simulation.identity fun _ => rfl
  needed := by
    rintro answer id value h next ⟨group, particle, use, hgroup, hparticle, huse, hnext⟩
    simp only [Rules.members, given_eq, hgroup, bind_eq_ok_iff, Except.ok.injEq] at h
    obtain ⟨_, rfl, hmembers⟩ := h
    rw [hparticle] at hmembers
    exact Rules.expandWith_needed particle hmembers use huse hnext

def answersWith (content : TypeId → Except Error Content) : Answers (Except Error) where
  elementTarget := set.targetOf .element
  elementType := set.typeOf .element
  attributeTarget := set.targetOf .attribute
  attributeType := set.typeOf .attribute
  scalar := set.scalarRule.answer
  content := content
  attributes := set.attributesRule.answer
  members := set.membersRule.answer

theorem serves_answersWith (first second : TypeId → Except Error Content) :
    Simulation.identity.Serves (set.answersWith first) (set.answersWith second) where
  elementTarget _ := rfl
  elementType _ := rfl
  attributeTarget _ := rfl
  attributeType _ := rfl
  scalar _ := rfl
  attributes _ := rfl
  members _ := rfl

def contentRule : Rule set .type Content where
  apply content := Rules.content set (set.answersWith content)
  Needs := set.ContentNeeds
  index_lt := by
    rintro id next ⟨type, _, htype, _⟩
    exact index_lt_of_typeDef htype
  absent := by
    intro answer id hle
    rw [Rules.content, given_eq, typeDef_of_index_le hle]
    rfl
  congr := by
    intro first second id h
    exact Rules.follows_content set (set.serves_answersWith first second) h
  needed := fun h _ hneeds => Rules.content_needed h hneeds

/-- The answers by definition. -/
def answers : Answers (Except Error) :=
  set.answersWith set.contentRule.answer

end SchemaSet

end SchemaBinding
