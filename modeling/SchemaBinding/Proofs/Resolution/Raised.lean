import SchemaBinding.Proofs.Resolution.Rules

namespace SchemaBinding

/-- The kind of components that a failure reports a cycle of. -/
def Error.cycleKind? : Error → Option SymbolKind
  | .cyclic kind _ => some kind
  | _ => none

theorem bind_eq_error_iff {ε α β : Type} {work : Except ε α} {next : α → Except ε β}
    {error : ε} :
    work >>= next = .error error ↔
      work = .error error ∨ ∃ value, work = .ok value ∧ next value = .error error := by
  cases work with
  | error other => simp [bind, Except.bind]
  | ok value => simp [bind, Except.bind]

/-- All failures of a result are of a sort. -/
def Raises {α : Type} (sort : Error → Prop) (result : Except Error α) : Prop :=
  ∀ error, result = .error error → sort error

namespace Raises

variable {α β : Type} {sort other : Error → Prop} {result : Except Error α}

theorem ok (value : α) : Raises sort (.ok value) := by
  intro error h
  cases h

theorem error {failure : Error} (h : sort failure) :
    Raises sort (.error failure : Except Error α) := by
  intro found hfound
  cases hfound
  exact h

theorem bind {next : α → Except Error β} (h : Raises sort result)
    (hnext : ∀ value, result = .ok value → Raises sort (next value)) :
    Raises sort (result >>= next) := by
  intro error herror
  rcases bind_eq_error_iff.mp herror with hfirst | ⟨value, hvalue, hrest⟩
  · exact h error hfirst
  · exact hnext value hvalue error hrest

theorem map (f : α → β) (h : Raises sort result) : Raises sort (do return f (← result)) :=
  h.bind fun value _ => ok (f value)

theorem weaken (h : Raises sort result) (hsort : ∀ error, sort error → other error) :
    Raises other result :=
  fun error herror => hsort error (h error herror)

end Raises

def Error.Plain (error : Error) : Prop :=
  error.cycleKind? = none

theorem Error.Plain.ne {error : Error} (h : error.Plain) (kind : SymbolKind) :
    error.cycleKind? ≠ some kind := by
  rw [h]
  exact nofun

namespace SchemaSet

variable (set : SchemaSet)

theorem raises_resolve (kind : SymbolKind) (name : QName) (span : Span) :
    Raises Error.Plain (set.resolve kind name span) := by
  unfold resolve
  split
  · exact .ok _
  · exact .error rfl

theorem raises_typeDef (id : TypeId) : Raises Error.Plain (set.typeDef id) := by
  unfold typeDef
  split
  · exact .ok _
  · exact .error rfl

theorem raises_typeTarget (id : TypeId) : Raises Error.Plain (set.typeTarget id) :=
  (set.raises_typeDef id).map _

theorem raises_resolveTypeName (name : QName) (span : Span) :
    Raises Error.Plain (set.resolveTypeName name span) := by
  unfold resolveTypeName
  split
  · split
    · exact .ok _
    · exact .error rfl
  · exact (set.raises_resolve .type name span).bind fun id _ => set.raises_typeTarget id

theorem raises_resolveTypeRef (reference : TypeRef) (span : Span) :
    Raises Error.Plain (set.resolveTypeRef reference span) := by
  cases reference with
  | named name => exact set.raises_resolveTypeName name span
  | inline id => exact set.raises_typeTarget id

theorem raises_contentBase (derivation : Derivation) :
    Raises Error.Plain (Rules.contentBase set derivation) := by
  unfold Rules.contentBase
  split
  · exact set.raises_typeTarget _
  · exact set.raises_resolveTypeName _ _

theorem raises_attributeGroupDef (id : AttributeGroupId) :
    Raises Error.Plain (set.attributeGroupDef id) := by
  unfold attributeGroupDef
  split
  · exact .ok _
  · exact .error rfl

theorem raises_groupDef (id : GroupId) : Raises Error.Plain (set.groupDef id) := by
  unfold groupDef
  split
  · exact .ok _
  · exact .error rfl

theorem raises_attributeDecl (id : AttributeId) :
    Raises Error.Plain (set.attributeDecl id) := by
  unfold attributeDecl
  split
  · exact .ok _
  · exact .error rfl

/-- Following references reports only cycles of declarations of their kind. -/
theorem raises_target (kind : SymbolKind) (passed : List (Id kind)) (id : Id kind) :
    Raises (fun error => error.Plain ∨ error.cycleKind? = some kind)
      (set.target kind passed id) := by
  fun_induction target set kind passed id with
  | case1 => exact .error (.inr rfl)
  | case2 => exact .error (.inl rfl)
  | case3 => exact .ok _
  | case4 passed id hseen name documentation span hfound error hresolve =>
      exact .error (.inl (set.raises_resolve kind name span error hresolve))
  | case5 passed id hseen name documentation span hfound next hresolve hless ih => exact ih

theorem raises_nameOf (kind : SymbolKind) (id : Id kind) :
    Raises (fun error => error.Plain ∨ error.cycleKind? = some kind) (set.nameOf kind id) :=
  (set.raises_target kind [] id).map _

end SchemaSet

namespace Rules

open SchemaSet

variable {set : SchemaSet} {sort : Error → Prop}

section

variable {scalar : TypeId → Except Error Scalar}

theorem raises_scalarAt {target : TypeTarget}
    (h : ∀ next, target.id? = some next → Raises sort (scalar next)) :
    Raises sort (scalarAt scalar target) := by
  cases target with
  | builtin type => exact .ok _
  | simple id => exact h id rfl
  | complex id => exact h id rfl

theorem raises_unionScalar (hplain : ∀ error, Error.Plain error → sort error) {span : Span}
    (known : Option Scalar) {members : List TypeRef}
    (h : ∀ member ∈ members, ∀ target, set.resolveTypeRef member span = .ok target →
      ∀ next, target.id? = some next → Raises sort (scalar next)) :
    Raises sort (unionScalar set scalar span known members) := by
  induction members generalizing known with
  | nil => exact .ok _
  | cons member rest ih =>
      rw [unionScalar, given_eq]
      apply ((set.raises_resolveTypeRef member span).weaken hplain).bind
      intro target htarget
      apply (raises_scalarAt (h member List.mem_cons_self target htarget)).bind
      intro found _
      exact ih _ fun other hother => h other (List.mem_cons_of_mem member hother)

theorem raises_bodyScalar (hplain : ∀ error, Error.Plain error → sort error) {type : TypeDef}
    (h : ∀ target next, .ok target ∈ set.scalarSources type → target.id? = some next →
      Raises sort (scalar next)) :
    Raises sort (bodyScalar set scalar type) := by
  cases hbody : type.body with
  | simple derivation =>
      simp only [bodyScalar, hbody]
      simp only [scalarSources, hbody] at h
      cases derivation with
      | restriction base facets =>
          rw [simpleScalar, given_eq]
          apply ((set.raises_resolveTypeRef base type.span).weaken hplain).bind
          intro target htarget
          apply raises_scalarAt
          intro next hnext
          exact h target next (by simp [htarget]) hnext
      | list item =>
          rw [simpleScalar, given_eq]
          exact ((set.raises_resolveTypeRef item type.span).weaken hplain).bind fun _ _ => .ok _
      | union members =>
          apply Raises.map
          apply raises_unionScalar hplain
          intro member hmember target htarget next hnext
          exact h target next (List.mem_map.mpr ⟨member, hmember, htarget⟩) hnext
  | complex content mixed =>
      simp only [bodyScalar, hbody]
      simp only [scalarSources, hbody] at h
      cases content with
      | simple derivation =>
          simp only [given_eq]
          apply ((set.raises_contentBase derivation).weaken hplain).bind
          intro target htarget
          apply raises_scalarAt
          intro next hnext
          exact h target next (by simp [htarget]) hnext
      | direct container =>
          cases mixed with
          | true => exact .ok _
          | false => exact .error (hplain _ rfl)
      | complex derivation =>
          cases mixed with
          | true => exact .ok _
          | false => exact .error (hplain _ rfl)

theorem raises_scalar (hplain : ∀ error, Error.Plain error → sort error) {id : TypeId}
    (h : ∀ next, set.ScalarNeeds id next → Raises sort (scalar next)) :
    Raises sort (Rules.scalar set scalar id) := by
  rw [Rules.scalar, given_eq]
  apply ((set.raises_typeDef id).weaken hplain).bind
  intro type htype
  apply raises_bodyScalar hplain
  intro target next htarget hnext
  exact h next ⟨type, target, htype, htarget, hnext⟩

end

section

variable {attributes : AttributeGroupId → Except Error (List AttributeId)}

theorem raises_attributesAt (hplain : ∀ error, Error.Plain error → sort error) :
    (item : AttributeItem) →
    (∀ use next, item = .group use →
      set.resolve .attributeGroup use.name use.span = .ok next → Raises sort (attributes next)) →
    Raises sort (attributesAt set attributes item)
  | .attribute _, _ => .ok _
  | .group use, h => by
      rw [attributesAt, given_eq]
      apply ((set.raises_resolve .attributeGroup use.name use.span).weaken hplain).bind
      intro next hnext
      exact h use next rfl hnext

theorem raises_expandItems (hplain : ∀ error, Error.Plain error → sort error)
    {items : List AttributeItem}
    (h : ∀ use next, .group use ∈ items →
      set.resolve .attributeGroup use.name use.span = .ok next → Raises sort (attributes next)) :
    Raises sort (expandItems set attributes items) := by
  induction items with
  | nil => exact .ok _
  | cons item rest ih =>
      have hfirst : Raises sort (attributesAt set attributes item) := by
        apply raises_attributesAt hplain item
        intro use next huse hnext
        exact h use next (huse ▸ List.mem_cons_self) hnext
      apply hfirst.bind
      intro first _
      apply Raises.map
      exact ih fun use next huse => h use next (List.mem_cons_of_mem item huse)

theorem raises_attributes (hplain : ∀ error, Error.Plain error → sort error)
    {id : AttributeGroupId}
    (h : ∀ next, set.AttributesNeed id next → Raises sort (attributes next)) :
    Raises sort (Rules.attributes set attributes id) := by
  rw [Rules.attributes, given_eq]
  apply ((set.raises_attributeGroupDef id).weaken hplain).bind
  intro group hgroup
  apply raises_expandItems hplain
  intro use next huse hnext
  exact h next ⟨group, use, hgroup, huse, hnext⟩

end

section

variable {name : ElementId → Except Error String}
  {members : GroupId → Except Error (List Member)}

mutual

theorem raises_expandWith (hplain : ∀ error, Error.Plain error → sort error)
    (hname : ∀ id, Raises sort (name id)) (context : ParticleContext) : (particle : Particle) →
    (∀ use ∈ particle.uses, ∀ next, set.resolve .group use.name use.span = .ok next →
      Raises sort (members next)) →
    Raises sort (expandWith set name members context particle)
  | .element id, _ => by
      rw [expandWith]
      exact (hname id).map _
  | .model type occurs particles, h => by
      rw [expandWith]
      rw [Particle.uses] at h
      exact raises_expandAllWith hplain hname (context.within type occurs) particles h
  | .group use occurs, h => by
      rw [expandWith, given_eq]
      rw [Particle.uses] at h
      apply ((set.raises_resolve .group use.name use.span).weaken hplain).bind
      intro next hnext
      exact (h use List.mem_cons_self next hnext).map _

theorem raises_expandAllWith (hplain : ∀ error, Error.Plain error → sort error)
    (hname : ∀ id, Raises sort (name id)) (context : ParticleContext) :
    (particles : List Particle) →
    (∀ use ∈ Particle.usesAll particles, ∀ next,
      set.resolve .group use.name use.span = .ok next → Raises sort (members next)) →
    Raises sort (expandAllWith set name members context particles)
  | [], _ => by
      rw [expandAllWith]
      exact .ok _
  | particle :: rest, h => by
      rw [expandAllWith]
      simp only [Particle.usesAll, List.mem_append] at h
      apply (raises_expandWith hplain hname context particle
        fun use huse => h use (.inl huse)).bind
      intro first _
      apply Raises.map
      exact raises_expandAllWith hplain hname context rest fun use huse => h use (.inr huse)

end

theorem raises_members (hplain : ∀ error, Error.Plain error → sort error)
    (hname : ∀ id, Raises sort (name id)) {id : GroupId}
    (h : ∀ next, set.MembersNeed id next → Raises sort (members next)) :
    Raises sort (Rules.members set name members id) := by
  rw [Rules.members, given_eq]
  apply ((set.raises_groupDef id).weaken hplain).bind
  intro group hgroup
  cases hparticle : group.particle with
  | none => exact .ok _
  | some particle =>
      apply raises_expandWith hplain hname
      intro use huse next hnext
      exact h next ⟨group, particle, use, hgroup, hparticle, huse, hnext⟩

end

/-! Contents. -/

section

variable {answers : Answers (Except Error)}

theorem raises_attributeMember? (hplain : ∀ error, Error.Plain error → sort error)
    (hname : ∀ id, Raises sort (answers.attributeName id)) (id : AttributeId) :
    Raises sort (attributeMember? set answers id) := by
  rw [attributeMember?, given_eq]
  apply ((set.raises_attributeDecl id).weaken hplain).bind
  intro declared _
  split
  · exact .ok _
  · exact (hname id).map _

theorem raises_attributeMembers (hplain : ∀ error, Error.Plain error → sort error)
    (hname : ∀ id, Raises sort (answers.attributeName id)) (ids : List AttributeId) :
    Raises sort (attributeMembers set answers ids) := by
  induction ids with
  | nil => exact .ok _
  | cons id rest ih =>
      apply (raises_attributeMember? hplain hname id).bind
      intro first _
      exact ih.map _

/-- What the members that a type declares itself are made of. -/
structure OwnRaises (answers : Answers (Except Error)) (sort : Error → Prop) : Prop where
  plain : ∀ error, Error.Plain error → sort error
  elementName : ∀ id, Raises sort (answers.elementName id)
  attributeName : ∀ id, Raises sort (answers.attributeName id)
  attributes : ∀ id, Raises sort (answers.attributes id)
  members : ∀ id, Raises sort (answers.members id)

theorem OwnRaises.weaken {other : Error → Prop} (h : OwnRaises answers sort)
    (hsort : ∀ error, sort error → other error) : OwnRaises answers other where
  plain error hplain := hsort error (h.plain error hplain)
  elementName id := (h.elementName id).weaken hsort
  attributeName id := (h.attributeName id).weaken hsort
  attributes id := (h.attributes id).weaken hsort
  members id := (h.members id).weaken hsort

theorem raises_ownMembers (h : OwnRaises answers sort) (container : Container) :
    Raises sort (ownMembers set answers container) := by
  apply (raises_expandItems h.plain fun _ next _ _ => h.attributes next).bind
  intro ids _
  apply (raises_attributeMembers h.plain h.attributeName ids).bind
  intro first _
  cases container.particle with
  | none => exact (Raises.ok []).bind fun elements _ => .ok (first ++ elements)
  | some particle =>
      apply Raises.map
      exact raises_expandWith h.plain h.elementName {} particle fun _ _ next _ => h.members next

theorem raises_simpleContent (h : OwnRaises answers sort) {id : TypeId} {derivation : Derivation}
    (hscalar : Raises sort (answers.scalar id))
    (hcontent : ∀ next, set.resolveTypeName derivation.base derivation.span =
      .ok (.complex next) → Raises sort (answers.content next)) :
    Raises sort (simpleContent set answers id derivation) := by
  apply hscalar.bind
  intro scalar _
  rw [given_eq]
  apply ((set.raises_resolveTypeName derivation.base derivation.span).weaken h.plain).bind
  intro base hbase
  have hinherited : Raises sort (flattenedMembers answers base) := by
    cases base with
    | builtin type => exact .ok _
    | simple id => exact .ok _
    | complex id => exact (hcontent id hbase).map _
  apply hinherited.bind
  intro inherited _
  exact (raises_ownMembers h derivation.container).map _

theorem raises_complexContent (h : OwnRaises answers sort) {derivation : Derivation}
    (hcontent : derivation.method = .extension →
      ∀ next, set.resolveTypeName derivation.base derivation.span = .ok (.complex next) →
        Raises sort (answers.content next)) :
    Raises sort (complexContent set answers derivation) := by
  rw [complexContent, given_eq]
  apply ((set.raises_resolveTypeName derivation.base derivation.span).weaken h.plain).bind
  intro base hbase
  have hstart : Raises sort (contentStart set answers derivation base) := by
    unfold contentStart
    cases hmethod : derivation.method with
    | restriction => exact .ok _
    | extension =>
        cases base with
        | builtin type =>
            simp only [extended]
            split
            · exact .ok _
            · exact .error (h.plain _ rfl)
        | simple id => exact .error (h.plain _ rfl)
        | complex id => exact (hcontent hmethod id hbase).bind fun _ _ => .ok _
  apply hstart.bind
  intro start _
  exact (raises_ownMembers h derivation.container).map _

theorem raises_content (h : OwnRaises answers sort) {id : TypeId}
    (hscalar : Raises sort (answers.scalar id))
    (hcontent : ∀ next, set.ContentNeeds id next → Raises sort (answers.content next)) :
    Raises sort (Rules.content set answers id) := by
  rw [Rules.content, given_eq]
  apply ((set.raises_typeDef id).weaken h.plain).bind
  intro type htype
  cases hbody : type.body with
  | simple derivation =>
      simp only [bodyContent, hbody]
      exact .error (h.plain _ rfl)
  | complex content mixed =>
      simp only [bodyContent, hbody]
      cases content with
      | direct container => exact (raises_ownMembers h container).map _
      | simple derivation =>
          apply raises_simpleContent h hscalar
          intro next hnext
          exact hcontent next ⟨type, derivation, htype, by simp [lender?, hbody], hnext⟩
      | complex derivation =>
          apply raises_complexContent h
          intro hmethod next hnext
          exact hcontent next ⟨type, derivation, htype, by simp [lender?, hbody, hmethod], hnext⟩

end

end Rules

end SchemaBinding
