import SchemaBinding.Proofs.Resolution.Dependency

namespace SchemaBinding

/-- A relation between work in a monad and plain results that holds of a sequence of steps when
it holds of each step. -/
structure Simulation (m : Type → Type) [Monad m] [MonadExceptOf Error m] where
  Follows : {α : Type} → m α → Except Error α → Prop
  done : ∀ {α : Type} (value : α), Follows (pure value) (.ok value)
  failed : ∀ {α : Type} (error : Error), Follows (throw error : m α) (.error error)
  sequenced : ∀ {α β : Type} {work : m α} {result : Except Error α} {next : α → m β}
    {other : α → Except Error β}, Follows work result →
      (∀ value, result = .ok value → Follows (next value) (other value)) →
      Follows (work >>= next) (result >>= other)

def Simulation.identity : Simulation (Except Error) where
  Follows work result := work = result
  done _ := rfl
  failed _ := rfl
  sequenced := by
    intro α β work result next other hwork hnext
    subst hwork
    cases work with
    | error error => rfl
    | ok value => exact hnext value rfl

theorem given_eq {α : Type} (result : Except Error α) :
    (given result : Except Error α) = result := by
  cases result <;> rfl

namespace Simulation

variable {m : Type → Type} [Monad m] [MonadExceptOf Error m] (sim : Simulation m)

theorem follows_given {α : Type} (result : Except Error α) :
    sim.Follows (given result : m α) (given result) := by
  cases result with
  | error error => exact sim.failed error
  | ok value => exact sim.done value

theorem follows_given_bind {α β : Type} {result : Except Error α} {next : α → m β}
    {other : α → Except Error β}
    (h : ∀ value, result = .ok value → sim.Follows (next value) (other value)) :
    sim.Follows (given result >>= next) (given result >>= other) := by
  apply sim.sequenced (sim.follows_given result)
  intro value hvalue
  exact h value ((given_eq result).symm.trans hvalue)

theorem follows_map {α β : Type} {work : m α} {result : Except Error α} (f : α → β)
    (h : sim.Follows work result) :
    sim.Follows (do return f (← work)) (do return f (← result)) :=
  sim.sequenced h fun value _ => sim.done (f value)

end Simulation

namespace Rules

open SchemaSet

variable (set : SchemaSet) {m : Type → Type} [Monad m] [MonadExceptOf Error m]
  (sim : Simulation m)

variable {scalar : TypeId → m Scalar} {plainScalar : TypeId → Except Error Scalar}

theorem follows_scalarAt {target : TypeTarget}
    (h : ∀ next, target.id? = some next → sim.Follows (scalar next) (plainScalar next)) :
    sim.Follows (scalarAt scalar target) (scalarAt plainScalar target) := by
  cases target with
  | builtin type => exact sim.done type.scalar
  | simple id => exact h id rfl
  | complex id => exact h id rfl

theorem follows_unionScalar {span : Span} (known : Option Scalar) {members : List TypeRef}
    (h : ∀ member ∈ members, ∀ target, set.resolveTypeRef member span = .ok target →
      ∀ next, target.id? = some next → sim.Follows (scalar next) (plainScalar next)) :
    sim.Follows (unionScalar set scalar span known members)
      (unionScalar set plainScalar span known members) := by
  induction members generalizing known with
  | nil => exact sim.done known
  | cons member rest ih =>
      apply sim.follows_given_bind
      intro target htarget
      apply sim.sequenced
      · exact follows_scalarAt sim (h member List.mem_cons_self target htarget)
      · intro found _
        apply ih
        intro other hother
        exact h other (List.mem_cons_of_mem member hother)

theorem follows_bodyScalar {type : TypeDef}
    (h : ∀ target next, .ok target ∈ set.scalarSources type → target.id? = some next →
      sim.Follows (scalar next) (plainScalar next)) :
    sim.Follows (bodyScalar set scalar type) (bodyScalar set plainScalar type) := by
  cases hbody : type.body with
  | simple derivation =>
      simp only [bodyScalar, hbody]
      simp only [scalarSources, hbody] at h
      cases derivation with
      | restriction base facets =>
          apply sim.follows_given_bind
          intro target htarget
          apply follows_scalarAt
          intro next hnext
          exact h target next (by simp [htarget]) hnext
      | list item =>
          apply sim.follows_given_bind
          intro _ _
          exact sim.done Scalar.string
      | union members =>
          apply sim.follows_map
          apply follows_unionScalar
          intro member hmember target htarget next hnext
          exact h target next (List.mem_map.mpr ⟨member, hmember, htarget⟩) hnext
  | complex content mixed =>
      simp only [bodyScalar, hbody]
      simp only [scalarSources, hbody] at h
      cases content with
      | simple derivation =>
          apply sim.follows_given_bind
          intro target htarget
          apply follows_scalarAt
          intro next hnext
          exact h target next (by simp [htarget]) hnext
      | direct container =>
          cases mixed with
          | true => exact sim.done Scalar.string
          | false => exact sim.failed _
      | complex derivation =>
          cases mixed with
          | true => exact sim.done Scalar.string
          | false => exact sim.failed _

theorem follows_scalar {id : TypeId}
    (h : ∀ next, set.ScalarNeeds id next → sim.Follows (scalar next) (plainScalar next)) :
    sim.Follows (Rules.scalar set scalar id) (Rules.scalar set plainScalar id) := by
  apply sim.follows_given_bind
  intro type htype
  apply follows_bodyScalar
  intro target next htarget hnext
  exact h next ⟨type, target, htype, htarget, hnext⟩

variable {attributes : AttributeGroupId → m (List AttributeId)}
  {plainAttributes : AttributeGroupId → Except Error (List AttributeId)}

theorem follows_attributesAt : (item : AttributeItem) →
    (∀ use next, item = .group use →
      set.resolve .attributeGroup use.name use.span = .ok next →
        sim.Follows (attributes next) (plainAttributes next)) →
    sim.Follows (attributesAt set attributes item) (attributesAt set plainAttributes item)
  | .attribute id, _ => sim.done [id]
  | .group use, h => by
      apply sim.follows_given_bind
      intro next hnext
      exact h use next rfl hnext

theorem follows_expandItems {items : List AttributeItem}
    (h : ∀ use next, .group use ∈ items →
      set.resolve .attributeGroup use.name use.span = .ok next →
        sim.Follows (attributes next) (plainAttributes next)) :
    sim.Follows (expandItems set attributes items) (expandItems set plainAttributes items) := by
  induction items with
  | nil => exact sim.done []
  | cons item rest ih =>
      apply sim.sequenced
      · apply follows_attributesAt
        intro use next huse hnext
        exact h use next (by simp [huse]) hnext
      · intro first _
        apply sim.follows_map
        apply ih
        intro use next huse hnext
        exact h use next (List.mem_cons_of_mem item huse) hnext

theorem follows_attributes {id : AttributeGroupId}
    (h : ∀ next, set.AttributesNeed id next →
      sim.Follows (attributes next) (plainAttributes next)) :
    sim.Follows (Rules.attributes set attributes id)
      (Rules.attributes set plainAttributes id) := by
  apply sim.follows_given_bind
  intro group hgroup
  apply follows_expandItems
  intro use next huse hnext
  exact h next ⟨group, use, hgroup, huse, hnext⟩

variable {name : ElementId → m String} {plainName : ElementId → Except Error String}
  {members : GroupId → m (List Member)} {plainMembers : GroupId → Except Error (List Member)}

mutual

theorem follows_expandWith (hname : ∀ id, sim.Follows (name id) (plainName id))
    (context : ParticleContext) :
    (particle : Particle) →
    (∀ use ∈ particle.uses, ∀ next, set.resolve .group use.name use.span = .ok next →
      sim.Follows (members next) (plainMembers next)) →
    sim.Follows (expandWith set name members context particle)
      (expandWith set plainName plainMembers context particle)
  | .element id, _ => by
      simp only [expandWith]
      exact sim.follows_map _ (hname id)
  | .model type occurs particles, h => by
      simp only [expandWith]
      exact follows_expandAllWith hname (context.within type occurs) particles
        (by simpa only [Particle.uses] using h)
  | .group use occurs, h => by
      simp only [expandWith]
      apply sim.follows_given_bind
      intro next hnext
      apply sim.follows_map
      exact h use (by simp [Particle.uses]) next hnext

theorem follows_expandAllWith (hname : ∀ id, sim.Follows (name id) (plainName id))
    (context : ParticleContext) :
    (particles : List Particle) →
    (∀ use ∈ Particle.usesAll particles, ∀ next,
      set.resolve .group use.name use.span = .ok next →
        sim.Follows (members next) (plainMembers next)) →
    sim.Follows (expandAllWith set name members context particles)
      (expandAllWith set plainName plainMembers context particles)
  | [], _ => by
      simp only [expandAllWith]
      exact sim.done []
  | particle :: rest, h => by
      simp only [expandAllWith]
      simp only [Particle.usesAll, List.mem_append] at h
      apply sim.sequenced
      · exact follows_expandWith hname context particle fun use huse => h use (.inl huse)
      · intro first _
        apply sim.follows_map
        exact follows_expandAllWith hname context rest fun use huse => h use (.inr huse)

end

theorem follows_members {id : GroupId} (hname : ∀ id, sim.Follows (name id) (plainName id))
    (h : ∀ next, set.MembersNeed id next → sim.Follows (members next) (plainMembers next)) :
    sim.Follows (Rules.members set name members id)
      (Rules.members set plainName plainMembers id) := by
  apply sim.follows_given_bind
  intro group hgroup
  cases hparticle : group.particle with
  | none => exact sim.done []
  | some particle =>
      apply follows_expandWith set sim hname
      intro use huse next hnext
      exact h next ⟨group, particle, use, hgroup, hparticle, huse, hnext⟩

end Rules

/-- Answers in a monad that are related to plain answers, contents apart. -/
structure Simulation.Serves {m : Type → Type} [Monad m] [MonadExceptOf Error m]
    (sim : Simulation m) (answers : Answers m) (plain : Answers (Except Error)) : Prop where
  elementTarget : ∀ id, sim.Follows (answers.elementTarget id) (plain.elementTarget id)
  elementType : ∀ id, sim.Follows (answers.elementType id) (plain.elementType id)
  attributeTarget : ∀ id, sim.Follows (answers.attributeTarget id) (plain.attributeTarget id)
  attributeType : ∀ id, sim.Follows (answers.attributeType id) (plain.attributeType id)
  scalar : ∀ id, sim.Follows (answers.scalar id) (plain.scalar id)
  attributes : ∀ id, sim.Follows (answers.attributes id) (plain.attributes id)
  members : ∀ id, sim.Follows (answers.members id) (plain.members id)

namespace Simulation.Serves

variable {m : Type → Type} [Monad m] [MonadExceptOf Error m] {sim : Simulation m}
  {answers : Answers m} {plain : Answers (Except Error)}

theorem elementName (h : sim.Serves answers plain) (id : ElementId) :
    sim.Follows (answers.elementName id) (plain.elementName id) :=
  sim.follows_map _ (h.elementTarget id)

theorem attributeName (h : sim.Serves answers plain) (id : AttributeId) :
    sim.Follows (answers.attributeName id) (plain.attributeName id) :=
  sim.follows_map _ (h.attributeTarget id)

end Simulation.Serves

namespace Rules

open SchemaSet

variable (set : SchemaSet) {m : Type → Type} [Monad m] [MonadExceptOf Error m]
  {sim : Simulation m} {answers : Answers m} {plain : Answers (Except Error)}

/-! Contents. -/

theorem follows_attributeMember? (h : sim.Serves answers plain) (id : AttributeId) :
    sim.Follows (attributeMember? set answers id) (attributeMember? set plain id) := by
  apply sim.follows_given_bind
  intro declared _
  split
  · exact sim.done none
  · exact sim.follows_map _ (h.attributeName id)

theorem follows_attributeMembers (h : sim.Serves answers plain) (ids : List AttributeId) :
    sim.Follows (attributeMembers set answers ids) (attributeMembers set plain ids) := by
  induction ids with
  | nil => exact sim.done []
  | cons id rest ih =>
      apply sim.sequenced (follows_attributeMember? set h id)
      intro first _
      exact sim.follows_map _ ih

theorem follows_ownMembers (h : sim.Serves answers plain) (container : Container) :
    sim.Follows (ownMembers set answers container) (ownMembers set plain container) := by
  apply sim.sequenced
  · exact follows_expandItems set sim fun _ next _ _ => h.attributes next
  · intro ids _
    apply sim.sequenced (follows_attributeMembers set h ids)
    intro first _
    cases container.particle with
    | none => exact sim.sequenced (sim.done []) fun elements _ => sim.done (first ++ elements)
    | some particle =>
        apply sim.follows_map
        exact follows_expandWith set sim h.elementName {} particle
          fun _ _ next _ => h.members next

theorem follows_flattenedMembers {target : TypeTarget}
    (hcontent : ∀ next, target = .complex next →
      sim.Follows (answers.content next) (plain.content next)) :
    sim.Follows (flattenedMembers answers target) (flattenedMembers plain target) := by
  cases target with
  | builtin type => exact sim.done []
  | simple id => exact sim.done []
  | complex id => exact sim.follows_map _ (hcontent id rfl)

theorem follows_extended {derivation : Derivation} {target : TypeTarget}
    (hcontent : ∀ next, target = .complex next →
      sim.Follows (answers.content next) (plain.content next)) :
    sim.Follows (extended set answers derivation target)
      (extended set plain derivation target) := by
  cases target with
  | builtin type =>
      simp only [extended]
      split
      · exact sim.done ({} : Content)
      · exact sim.failed _
  | simple id => exact sim.failed _
  | complex id => exact sim.sequenced (hcontent id rfl) fun _ _ => sim.done _

theorem follows_simpleContent (h : sim.Serves answers plain) {id : TypeId}
    {derivation : Derivation}
    (hcontent : ∀ next, set.resolveTypeName derivation.base derivation.span =
      .ok (.complex next) → sim.Follows (answers.content next) (plain.content next)) :
    sim.Follows (simpleContent set answers id derivation)
      (simpleContent set plain id derivation) := by
  apply sim.sequenced (h.scalar id)
  intro scalar _
  apply sim.follows_given_bind
  intro base hbase
  apply sim.sequenced
  · exact follows_flattenedMembers fun next hnext => hcontent next (hnext ▸ hbase)
  · intro inherited _
    exact sim.follows_map _ (follows_ownMembers set h derivation.container)

theorem follows_complexContent (h : sim.Serves answers plain) {derivation : Derivation}
    (hcontent : derivation.method = .extension →
      ∀ next, set.resolveTypeName derivation.base derivation.span = .ok (.complex next) →
        sim.Follows (answers.content next) (plain.content next)) :
    sim.Follows (complexContent set answers derivation)
      (complexContent set plain derivation) := by
  apply sim.follows_given_bind
  intro base hbase
  have hstart : sim.Follows (contentStart set answers derivation base)
      (contentStart set plain derivation base) := by
    unfold contentStart
    cases hmethod : derivation.method with
    | restriction => exact sim.done ({} : Content)
    | extension =>
        exact follows_extended set fun next hnext => hcontent hmethod next (hnext ▸ hbase)
  apply sim.sequenced hstart
  intro start _
  exact sim.follows_map _ (follows_ownMembers set h derivation.container)

theorem follows_bodyContent (h : sim.Serves answers plain) {id : TypeId} {type : TypeDef}
    (hcontent : ∀ derivation next, lender? type = some derivation →
      set.resolveTypeName derivation.base derivation.span = .ok (.complex next) →
        sim.Follows (answers.content next) (plain.content next)) :
    sim.Follows (bodyContent set answers id type) (bodyContent set plain id type) := by
  cases hbody : type.body with
  | simple derivation =>
      simp only [bodyContent, hbody]
      exact sim.failed _
  | complex content mixed =>
      simp only [bodyContent, hbody]
      simp only [lender?, hbody] at hcontent
      cases content with
      | direct container => exact sim.follows_map _ (follows_ownMembers set h container)
      | simple derivation =>
          exact follows_simpleContent set h fun next hnext => hcontent derivation next rfl hnext
      | complex derivation =>
          apply follows_complexContent set h
          intro hmethod next hnext
          exact hcontent derivation next (if_pos hmethod) hnext

theorem follows_content (h : sim.Serves answers plain) {id : TypeId}
    (hcontent : ∀ next, set.ContentNeeds id next →
      sim.Follows (answers.content next) (plain.content next)) :
    sim.Follows (Rules.content set answers id) (Rules.content set plain id) := by
  apply sim.follows_given_bind
  intro type htype
  apply follows_bodyContent set h
  intro derivation next hderivation hnext
  exact hcontent next ⟨type, derivation, htype, hderivation, hnext⟩

end Rules

end SchemaBinding
