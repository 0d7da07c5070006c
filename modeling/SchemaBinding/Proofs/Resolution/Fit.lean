import SchemaBinding.Proofs.Resolution.Rules

namespace SchemaBinding

open Relation (TransGen ReflTransGen)

def HasValue {α : Type} (result : Except Error α) : Prop :=
  ∃ value, result = .ok value

namespace HasValue

variable {α β : Type} {result : Except Error α}

theorem ok (value : α) : HasValue (.ok value) :=
  ⟨value, rfl⟩

theorem not_error (error : Error) : ¬ HasValue (.error error : Except Error α) :=
  nofun

theorem bind_iff_exists {next : α → Except Error β} :
    HasValue (result >>= next) ↔ ∃ value, result = .ok value ∧ HasValue (next value) := by
  constructor
  · rintro ⟨last, hlast⟩
    obtain ⟨value, hvalue, hnext⟩ := bind_eq_ok_iff.mp hlast
    exact ⟨value, hvalue, last, hnext⟩
  · rintro ⟨value, hvalue, last, hlast⟩
    exact ⟨last, bind_eq_ok_iff.mpr ⟨value, hvalue, hlast⟩⟩

theorem bind_iff {next : α → Except Error β} :
    HasValue (result >>= next) ↔
      HasValue result ∧ ∀ value, result = .ok value → HasValue (next value) := by
  cases result with
  | error error => exact ⟨nofun, fun h => absurd h.1 (not_error error)⟩
  | ok value =>
      constructor
      · intro h
        refine ⟨ok value, ?_⟩
        rintro _ ⟨⟩
        exact h
      · exact fun h => h.2 value rfl

/-- When the rest needs the same, whatever the first step gives. -/
theorem bind_iff_and {next : α → Except Error β} {rest : Prop}
    (h : ∀ value, HasValue (next value) ↔ rest) :
    HasValue (result >>= next) ↔ HasValue result ∧ rest := by
  rw [bind_iff]
  refine and_congr_right ?_
  rintro ⟨value, hvalue⟩
  constructor
  · exact fun hnext => (h value).mp (hnext value hvalue)
  · exact fun hrest other _ => (h other).mpr hrest

theorem map_iff (f : α → β) : HasValue (do return f (← result)) ↔ HasValue result :=
  bind_iff.trans (and_iff_left fun value _ => ok (f value))

end HasValue

namespace SchemaSet

variable (set : SchemaSet)

/-- What is named for the scalar of a type is there, and so is the type of a list's items. Without
simple content a complex type has a scalar only if it is mixed. -/
def BodyFit (type : TypeDef) : Prop :=
  match type.body with
  | .simple (.restriction base _) => HasValue (set.resolveTypeRef base type.span)
  | .simple (.list item) => HasValue (set.resolveTypeRef item type.span)
  | .simple (.union members) => ∀ member ∈ members, HasValue (set.resolveTypeRef member type.span)
  | .complex (.simple derivation) _ => HasValue (Rules.contentBase set derivation)
  | .complex _ mixed => mixed = true

def ScalarFit (id : TypeId) : Prop :=
  ∃ type, set.typeDef id = .ok type ∧ set.BodyFit type

def AttributesFit (id : AttributeGroupId) : Prop :=
  ∃ group, set.attributeGroupDef id = .ok group ∧ ∀ use, .group use ∈ group.attributes →
    HasValue (set.resolve .attributeGroup use.name use.span)

end SchemaSet

mutual

def Particle.elements : Particle → List ElementId
  | .element id => [id]
  | .model _ _ particles => Particle.elementsAll particles
  | .group _ _ => []

def Particle.elementsAll : List Particle → List ElementId
  | [] => []
  | particle :: rest => particle.elements ++ Particle.elementsAll rest

end

namespace SchemaSet

variable (set : SchemaSet)

/-- The elements written in a particle have names, and the groups that it uses have members. -/
def ParticleFit (members : GroupId → Prop) (particle : Particle) : Prop :=
  (∀ id ∈ particle.elements, HasValue (set.nameOf .element id)) ∧
    ∀ use ∈ particle.uses, ∃ next, set.resolve .group use.name use.span = .ok next ∧ members next

def MembersFit (id : GroupId) : Prop :=
  ∃ group, set.groupDef id = .ok group ∧
    ∀ particle, group.particle = some particle → set.ParticleFit (fun _ => True) particle

/-- An attribute has a name, unless it is prohibited. -/
def AttributeFit (id : AttributeId) : Prop :=
  ∃ declared, set.attributeDecl id = .ok declared ∧
    (declared.use ≠ .prohibited → HasValue (set.nameOf .attribute id))

/-- What a type declares itself can be listed. -/
structure OwnFit (container : Container) : Prop where
  groups : ∀ use, .group use ∈ container.attributes → ∃ next,
    set.resolve .attributeGroup use.name use.span = .ok next ∧
      HasValue (set.attributesRule.answer next)
  attributes : ∀ ids, Rules.expandItems set set.attributesRule.answer container.attributes =
    .ok ids → ∀ id ∈ ids, set.AttributeFit id
  particle : ∀ particle, container.particle = some particle →
    set.ParticleFit (fun next => HasValue (set.membersRule.answer next)) particle

/-- Apart from what its base lends it, the content of a type is there. Only what is complex, or
stands for every type, can be extended. -/
def ComplexFit (id : TypeId) : ComplexContent → Prop
  | .direct container => set.OwnFit container
  | .simple derivation =>
      HasValue (set.scalarRule.answer id) ∧ set.OwnFit derivation.container ∧
        HasValue (set.resolveTypeName derivation.base derivation.span)
  | .complex derivation =>
      set.OwnFit derivation.container ∧
        ∃ base, set.resolveTypeName derivation.base derivation.span = .ok base ∧
          (derivation.method = .extension → base = .builtin .anyType ∨ ∃ id, base = .complex id)

def ContentFit (id : TypeId) : Prop :=
  ∃ type content mixed, set.typeDef id = .ok type ∧ type.body = .complex content mixed ∧
    set.ComplexFit id content

end SchemaSet

namespace Rules

open SchemaSet

variable {set : SchemaSet}

section

variable {scalar : TypeId → Except Error Scalar}

theorem hasValue_scalarAt_iff {target : TypeTarget} :
    HasValue (scalarAt scalar target) ↔
      ∀ next, target.id? = some next → HasValue (scalar next) := by
  cases target with
  | builtin type => exact iff_of_true (.ok type.scalar) nofun
  | simple id => simp [scalarAt, TypeTarget.id?]
  | complex id => simp [scalarAt, TypeTarget.id?]

theorem hasValue_source_iff {source : Except Error TypeTarget} :
    HasValue (source >>= scalarAt scalar) ↔ HasValue source ∧
      ∀ target next, .ok target = source → target.id? = some next → HasValue (scalar next) := by
  rw [HasValue.bind_iff]
  simp only [hasValue_scalarAt_iff, eq_comm (a := source)]
  exact and_congr_right fun _ =>
    ⟨fun h target next htarget => h target htarget next,
      fun h target htarget next => h target next htarget⟩

theorem hasValue_unionScalar_iff {span : Span} {known : Option Scalar} {members : List TypeRef} :
    HasValue (unionScalar set scalar span known members) ↔
      ∀ member ∈ members, HasValue (set.resolveTypeRef member span >>= scalarAt scalar) := by
  induction members generalizing known with
  | nil => exact iff_of_true (.ok known) nofun
  | cons member rest ih =>
      rw [unionScalar, given_eq, ← bind_assoc, HasValue.bind_iff_and fun _ => ih,
        List.forall_mem_cons]

theorem hasValue_bodyScalar_iff {type : TypeDef} :
    HasValue (bodyScalar set scalar type) ↔ set.BodyFit type ∧
      ∀ target next, .ok target ∈ set.scalarSources type → target.id? = some next →
        HasValue (scalar next) := by
  cases hbody : type.body with
  | simple derivation =>
      simp only [bodyScalar, BodyFit, scalarSources, hbody]
      cases derivation with
      | restriction base facets =>
          simp only [simpleScalar, given_eq, List.mem_singleton]
          exact hasValue_source_iff
      | list item =>
          simp only [simpleScalar, given_eq, List.not_mem_nil, false_implies, implies_true,
            and_true]
          exact HasValue.map_iff fun _ => Scalar.string
      | union members =>
          rw [simpleScalar, HasValue.map_iff, hasValue_unionScalar_iff]
          simp only [hasValue_source_iff, List.mem_map]
          constructor
          · intro h
            refine ⟨fun member hmember => (h member hmember).1, ?_⟩
            rintro target next ⟨member, hmember, htarget⟩ hnext
            exact (h member hmember).2 target next htarget.symm hnext
          · rintro ⟨hthere, hscalar⟩ member hmember
            refine ⟨hthere member hmember, fun target next htarget hnext => ?_⟩
            exact hscalar target next ⟨member, hmember, htarget.symm⟩ hnext
  | complex content mixed =>
      simp only [bodyScalar, BodyFit, scalarSources, hbody]
      cases content with
      | simple derivation =>
          simp only [given_eq, List.mem_singleton]
          exact hasValue_source_iff
      | direct container =>
          cases mixed with
          | true => exact iff_of_true (.ok _) ⟨rfl, fun _ _ hmem => absurd hmem List.not_mem_nil⟩
          | false => exact iff_of_false (HasValue.not_error _) fun h => Bool.false_ne_true h.1
      | complex derivation =>
          cases mixed with
          | true => exact iff_of_true (.ok _) ⟨rfl, fun _ _ hmem => absurd hmem List.not_mem_nil⟩
          | false => exact iff_of_false (HasValue.not_error _) fun h => Bool.false_ne_true h.1

theorem hasValue_scalar_iff {id : TypeId} :
    HasValue (Rules.scalar set scalar id) ↔
      set.ScalarFit id ∧ ∀ next, set.ScalarNeeds id next → HasValue (scalar next) := by
  rw [Rules.scalar, given_eq, HasValue.bind_iff_exists]
  constructor
  · rintro ⟨type, htype, hscalar⟩
    obtain ⟨hfit, hneeded⟩ := hasValue_bodyScalar_iff.mp hscalar
    refine ⟨⟨type, htype, hfit⟩, ?_⟩
    rintro next ⟨other, target, hother, htarget, hnext⟩
    cases eq_of_ok hother htype
    exact hneeded target next htarget hnext
  · rintro ⟨⟨type, htype, hfit⟩, hneeded⟩
    refine ⟨type, htype, hasValue_bodyScalar_iff.mpr ⟨hfit, ?_⟩⟩
    intro target next htarget hnext
    exact hneeded next ⟨type, target, htype, htarget, hnext⟩

end

section

variable {attributes : AttributeGroupId → Except Error (List AttributeId)}

theorem hasValue_expandItems_iff {items : List AttributeItem} :
    HasValue (expandItems set attributes items) ↔ ∀ use, .group use ∈ items →
      HasValue (set.resolve .attributeGroup use.name use.span >>= attributes) := by
  induction items with
  | nil => exact iff_of_true (.ok []) nofun
  | cons item rest ih =>
      rw [expandItems, HasValue.bind_iff_and fun _ => (HasValue.map_iff _).trans ih]
      cases item with
      | «attribute» id =>
          have hfirst : HasValue (attributesAt set attributes (.attribute id)) := .ok [id]
          simp [hfirst]
      | group use =>
          rw [attributesAt, given_eq]
          constructor
          · rintro ⟨hfirst, hrest⟩ other hother
            rcases List.mem_cons.mp hother with heq | hlater
            · cases heq
              exact hfirst
            · exact hrest other hlater
          · intro h
            exact ⟨h use List.mem_cons_self, fun other hother => h other (.tail _ hother)⟩

theorem hasValue_attributes_iff {id : AttributeGroupId} :
    HasValue (Rules.attributes set attributes id) ↔
      set.AttributesFit id ∧ ∀ next, set.AttributesNeed id next → HasValue (attributes next) := by
  rw [Rules.attributes, given_eq, HasValue.bind_iff_exists]
  simp only [hasValue_expandItems_iff, HasValue.bind_iff]
  constructor
  · rintro ⟨group, hgroup, hitems⟩
    refine ⟨⟨group, hgroup, fun use huse => (hitems use huse).1⟩, ?_⟩
    rintro next ⟨other, use, hother, huse, hnext⟩
    cases eq_of_ok hother hgroup
    exact (hitems use huse).2 next hnext
  · rintro ⟨⟨group, hgroup, hfit⟩, hneeded⟩
    refine ⟨group, hgroup, fun use huse => ⟨hfit use huse, fun next hnext => ?_⟩⟩
    exact hneeded next ⟨group, use, hgroup, huse, hnext⟩

end

section

variable {name : ElementId → Except Error String}
  {members : GroupId → Except Error (List Member)}

mutual

theorem hasValue_expandWith_iff {context : ParticleContext} : (particle : Particle) →
    (HasValue (expandWith set name members context particle) ↔
      (∀ id ∈ particle.elements, HasValue (name id)) ∧ ∀ use ∈ particle.uses,
        HasValue (set.resolve .group use.name use.span >>= members))
  | .element id => by
      rw [expandWith, HasValue.map_iff]
      simp [Particle.elements, Particle.uses]
  | .model type occurs particles => by
      rw [expandWith, Particle.elements, Particle.uses]
      exact hasValue_expandAllWith_iff particles
  | .group use occurs => by
      rw [expandWith, given_eq, ← bind_assoc, HasValue.map_iff]
      simp [Particle.elements, Particle.uses]

theorem hasValue_expandAllWith_iff {context : ParticleContext} : (particles : List Particle) →
    (HasValue (expandAllWith set name members context particles) ↔
      (∀ id ∈ Particle.elementsAll particles, HasValue (name id)) ∧
        ∀ use ∈ Particle.usesAll particles,
          HasValue (set.resolve .group use.name use.span >>= members))
  | [] => by
      rw [expandAllWith]
      exact iff_of_true (.ok []) ⟨nofun, nofun⟩
  | particle :: rest => by
      rw [expandAllWith, HasValue.bind_iff_and fun _ =>
        (HasValue.map_iff _).trans (hasValue_expandAllWith_iff rest),
        hasValue_expandWith_iff particle]
      simp only [Particle.elementsAll, Particle.usesAll, List.forall_mem_append]
      exact and_and_and_comm

end

theorem hasValue_expandWith_iff_fit {context : ParticleContext} {particle : Particle} :
    HasValue (expandWith set set.elementName members context particle) ↔
      set.ParticleFit (fun next => HasValue (members next)) particle := by
  simp only [hasValue_expandWith_iff, HasValue.bind_iff_exists, ParticleFit]
  exact Iff.rfl

theorem hasValue_members_iff {id : GroupId} :
    HasValue (Rules.members set set.elementName members id) ↔
      set.MembersFit id ∧ ∀ next, set.MembersNeed id next → HasValue (members next) := by
  rw [Rules.members, given_eq, HasValue.bind_iff_exists]
  constructor
  · rintro ⟨group, hgroup, hmembers⟩
    have hfound : ∀ particle, group.particle = some particle →
        set.ParticleFit (fun next => HasValue (members next)) particle := by
      intro particle hparticle
      simpa only [hparticle, hasValue_expandWith_iff_fit] using hmembers
    refine ⟨⟨group, hgroup, fun particle hparticle => ?_⟩, ?_⟩
    · obtain ⟨hnames, huses⟩ := hfound particle hparticle
      refine ⟨hnames, fun use huse => ?_⟩
      obtain ⟨next, hnext, _⟩ := huses use huse
      exact ⟨next, hnext, trivial⟩
    · rintro next ⟨other, particle, use, hother, hparticle, huse, hnext⟩
      cases eq_of_ok hother hgroup
      obtain ⟨found, hfound, hvalue⟩ := (hfound particle hparticle).2 use huse
      exact eq_of_ok hfound hnext ▸ hvalue
  · rintro ⟨⟨group, hgroup, hfit⟩, hneeded⟩
    refine ⟨group, hgroup, ?_⟩
    cases hparticle : group.particle with
    | none => exact .ok []
    | some particle =>
        obtain ⟨hnames, huses⟩ := hfit particle hparticle
        refine hasValue_expandWith_iff_fit.mpr ⟨hnames, fun use huse => ?_⟩
        obtain ⟨next, hnext, _⟩ := huses use huse
        exact ⟨next, hnext, hneeded next ⟨group, particle, use, hgroup, hparticle, huse, hnext⟩⟩

end

section

variable {answer : TypeId → Except Error Content}

theorem hasValue_extended_iff {derivation : Derivation} {target : TypeTarget} :
    HasValue (extended set (set.answersWith answer) derivation target) ↔
      (target = .builtin .anyType ∨ ∃ id, target = .complex id) ∧
        ∀ next, target = .complex next → HasValue (answer next) := by
  cases target with
  | builtin type =>
      by_cases htype : type = .anyType
      · subst htype
        exact iff_of_true (.ok _) ⟨.inl rfl, nofun⟩
      · rw [extended, if_neg htype]
        refine iff_of_false (HasValue.not_error _) ?_
        rintro ⟨heq | ⟨id, heq⟩, _⟩
        · exact htype (TypeTarget.builtin.inj heq)
        · cases heq
  | simple id =>
      refine iff_of_false (HasValue.not_error _) ?_
      rintro ⟨heq | ⟨id, heq⟩, _⟩ <;> cases heq
  | complex id =>
      rw [extended, HasValue.map_iff fun content : Content =>
        ({ base := id, fieldNames := content.fieldNames } : Content)]
      simp [answersWith]

theorem hasValue_flattenedMembers_iff {target : TypeTarget} :
    HasValue (flattenedMembers (set.answersWith answer) target) ↔
      ∀ next, target = .complex next → HasValue (answer next) := by
  cases target with
  | builtin type => exact iff_of_true (.ok []) nofun
  | simple id => exact iff_of_true (.ok []) nofun
  | complex id =>
      rw [flattenedMembers, HasValue.map_iff Content.members]
      simp [answersWith]

theorem hasValue_contentStart_iff {derivation : Derivation} {target : TypeTarget} :
    HasValue (contentStart set (set.answersWith answer) derivation target) ↔
      (derivation.method = .extension → target = .builtin .anyType ∨ ∃ id, target = .complex id) ∧
        ∀ next, derivation.method = .extension → target = .complex next →
          HasValue (answer next) := by
  cases hmethod : derivation.method with
  | restriction =>
      simp only [contentStart, hmethod]
      have hother : DerivationMethod.restriction ≠ .extension := by decide
      exact iff_of_true (.ok _) ⟨fun h => absurd h hother, fun _ h => absurd h hother⟩
  | extension =>
      simp only [contentStart, hmethod, hasValue_extended_iff, true_implies]

theorem hasValue_attributeMember?_iff {id : AttributeId} :
    HasValue (attributeMember? set (set.answersWith answer) id) ↔ set.AttributeFit id := by
  rw [attributeMember?, given_eq, HasValue.bind_iff_exists]
  refine exists_congr fun declared => and_congr_right fun _ => ?_
  split
  case isTrue huse => exact iff_of_true (.ok none) fun hother => absurd huse hother
  case isFalse huse =>
      refine Iff.trans (HasValue.map_iff _) ?_
      exact ⟨fun hname _ => hname, fun hname => hname huse⟩

theorem hasValue_attributeMembers_iff {ids : List AttributeId} :
    HasValue (attributeMembers set (set.answersWith answer) ids) ↔
      ∀ id ∈ ids, set.AttributeFit id := by
  induction ids with
  | nil => exact iff_of_true (.ok []) nofun
  | cons id rest ih =>
      rw [attributeMembers, HasValue.bind_iff_and fun _ => (HasValue.map_iff _).trans ih,
        hasValue_attributeMember?_iff, List.forall_mem_cons]

theorem hasValue_ownMembers_iff {container : Container} :
    HasValue (ownMembers set (set.answersWith answer) container) ↔ set.OwnFit container := by
  calc HasValue (ownMembers set (set.answersWith answer) container)
    _ ↔ HasValue (expandItems set set.attributesRule.answer container.attributes) ∧
          ∀ ids, expandItems set set.attributesRule.answer container.attributes = .ok ids →
            (∀ id ∈ ids, set.AttributeFit id) ∧
              ∀ particle, container.particle = some particle →
                set.ParticleFit (fun next => HasValue (set.membersRule.answer next)) particle := by
        rw [ownMembers, HasValue.bind_iff]
        refine and_congr_right fun _ => forall₂_congr fun ids _ => ?_
        refine (HasValue.bind_iff_and ?_).trans (and_congr_left' hasValue_attributeMembers_iff)
        intro first
        cases container.particle with
        | none => exact iff_of_true (.ok _) fun _ h => by cases h
        | some particle =>
            simp only [Option.some.injEq, forall_eq']
            exact (HasValue.map_iff _).trans hasValue_expandWith_iff_fit
    _ ↔ set.OwnFit container := by
        constructor
        · rintro ⟨⟨ids, hids⟩, h⟩
          refine ⟨fun use huse => ?_, fun other hother => (h other hother).1, (h ids hids).2⟩
          exact HasValue.bind_iff_exists.mp (hasValue_expandItems_iff.mp ⟨ids, hids⟩ use huse)
        · rintro ⟨hgroups, hattributes, hparticle⟩
          refine ⟨hasValue_expandItems_iff.mpr fun use huse => ?_, fun ids hids => ?_⟩
          · exact HasValue.bind_iff_exists.mpr (hgroups use huse)
          · exact ⟨hattributes ids hids, hparticle⟩

theorem hasValue_simpleContent_iff {id : TypeId} {derivation : Derivation} :
    HasValue (simpleContent set (set.answersWith answer) id derivation) ↔
      set.ComplexFit id (.simple derivation) ∧
        ∀ next, set.resolveTypeName derivation.base derivation.span = .ok (.complex next) →
          HasValue (answer next) := by
  have hrest : ∀ (start : Content) (inherited : List Member), HasValue (do
      let own ← ownMembers set (set.answersWith answer) derivation.container
      return start.addAll (inherited ++ own)) ↔ set.OwnFit derivation.container :=
    fun start inherited => (HasValue.map_iff fun own => start.addAll (inherited ++ own)).trans
      hasValue_ownMembers_iff
  rw [simpleContent, given_eq]
  simp only [HasValue.bind_iff_and (hrest _), HasValue.bind_iff_exists,
    hasValue_flattenedMembers_iff]
  constructor
  · rintro ⟨scalar, hscalar, base, hbase, hneeded, hown⟩
    refine ⟨⟨⟨scalar, hscalar⟩, hown, base, hbase⟩, fun next hnext => ?_⟩
    exact hneeded next (eq_of_ok hbase hnext)
  · rintro ⟨⟨⟨scalar, hscalar⟩, hown, base, hbase⟩, hneeded⟩
    refine ⟨scalar, hscalar, base, hbase, fun next hnext => ?_, hown⟩
    exact hneeded next (hnext ▸ hbase)

theorem hasValue_complexContent_iff (id : TypeId) {derivation : Derivation} :
    HasValue (complexContent set (set.answersWith answer) derivation) ↔
      set.ComplexFit id (.complex derivation) ∧
        ∀ next, derivation.method = .extension →
          set.resolveTypeName derivation.base derivation.span = .ok (.complex next) →
            HasValue (answer next) := by
  have hrest : ∀ start : Content, HasValue (do
      let own ← ownMembers set (set.answersWith answer) derivation.container
      return start.addAll own) ↔ set.OwnFit derivation.container :=
    fun start => (HasValue.map_iff start.addAll).trans hasValue_ownMembers_iff
  rw [complexContent, given_eq]
  simp only [HasValue.bind_iff_and hrest, HasValue.bind_iff_exists, hasValue_contentStart_iff]
  constructor
  · rintro ⟨base, hbase, ⟨hextended, hneeded⟩, hown⟩
    refine ⟨⟨hown, base, hbase, hextended⟩, fun next hmethod hnext => ?_⟩
    exact hneeded next hmethod (eq_of_ok hbase hnext)
  · rintro ⟨⟨hown, base, hbase, hextended⟩, hneeded⟩
    refine ⟨base, hbase, ⟨hextended, fun next hmethod hnext => ?_⟩, hown⟩
    exact hneeded next hmethod (hnext ▸ hbase)

theorem hasValue_bodyContent_iff {id : TypeId} {type : TypeDef} {content : ComplexContent}
    {mixed : Bool} (hbody : type.body = .complex content mixed) :
    HasValue (bodyContent set (set.answersWith answer) id type) ↔ set.ComplexFit id content ∧
      ∀ derivation, lender? type = some derivation → ∀ next,
        set.resolveTypeName derivation.base derivation.span = .ok (.complex next) →
          HasValue (answer next) := by
  simp only [bodyContent, lender?, hbody]
  cases content with
  | direct container =>
      simp only [HasValue.map_iff (Content.addAll {}), hasValue_ownMembers_iff]
      exact (and_iff_left fun _ h => by cases h).symm
  | simple derivation =>
      rw [hasValue_simpleContent_iff]
      simp only [Option.some.injEq, forall_eq']
  | complex derivation =>
      rw [hasValue_complexContent_iff id]
      simp only [Option.ite_none_right_eq_some, Option.some.injEq, and_imp]
      refine and_congr_right fun _ => ⟨?_, fun hneeded next hmethod => ?_⟩
      · rintro hneeded _ hmethod rfl next hnext
        exact hneeded next hmethod hnext
      · exact hneeded derivation hmethod rfl next

theorem hasValue_content_iff {id : TypeId} :
    HasValue (Rules.content set (set.answersWith answer) id) ↔
      set.ContentFit id ∧ ∀ next, set.ContentNeeds id next → HasValue (answer next) := by
  rw [Rules.content, given_eq, HasValue.bind_iff_exists]
  constructor
  · rintro ⟨type, htype, hcontent⟩
    cases hbody : type.body with
    | simple derivation =>
        simp only [bodyContent, hbody] at hcontent
        exact absurd hcontent (HasValue.not_error _)
    | complex content mixed =>
        obtain ⟨hfit, hneeded⟩ := (hasValue_bodyContent_iff hbody).mp hcontent
        refine ⟨⟨type, content, mixed, htype, hbody, hfit⟩, ?_⟩
        rintro next ⟨other, derivation, hother, hlender, hnext⟩
        cases eq_of_ok hother htype
        exact hneeded derivation hlender next hnext
  · rintro ⟨⟨type, content, mixed, htype, hbody, hfit⟩, hneeded⟩
    refine ⟨type, htype, (hasValue_bodyContent_iff hbody).mpr ⟨hfit, ?_⟩⟩
    intro derivation hlender next hnext
    exact hneeded next ⟨type, derivation, htype, hlender, hnext⟩

end

end Rules

namespace Rule

variable {set : SchemaSet} {kind : SymbolKind} {α : Type} {rule : Rule set kind α}
  {fit : Id kind → Prop}

/-- With what is needed answered, a rule answers for the components that are fit, and for no
others. -/
def Suits (rule : Rule set kind α) (fit : Id kind → Prop) : Prop :=
  ∀ answer id, HasValue (rule.apply answer id) ↔
    fit id ∧ ∀ next, rule.Needs id next → HasValue (answer next)

theorem Suits.hasValue_answerFrom (h : rule.Suits fit) {unfinished : List (Id kind)}
    {id : Id kind} (hleads : rule.Leads unfinished id)
    (hall : ∀ other, ReflTransGen rule.Needs id other →
      fit other ∧ ¬ TransGen rule.Needs other other) :
    HasValue (rule.answerFrom unfinished id) := by
  -- nothing on the way needs itself, so each component is a new one and fewer are left
  induction hroom : set.unlisted kind unfinished using Nat.strongRecOn
    generalizing unfinished id with
  | _ room ih =>
      obtain ⟨hfit, hacyclic⟩ := hall id .refl
      have hnew : id ∉ unfinished := fun hmem => hacyclic (hleads id hmem)
      rw [answerFrom_of_not_mem hnew, h]
      refine ⟨hfit, fun next hneeds => ?_⟩
      have hless := SchemaSet.unlisted_cons_lt (rule.index_lt hneeds) hnew
      apply ih _ (hroom ▸ hless) (hleads.cons hneeds) _ rfl
      exact fun other hreach => hall other (.head hneeds hreach)

/-- A component has an answer just if all that it leads to is fit and nothing that it leads to
needs itself. -/
theorem Suits.hasValue_answer_iff (h : rule.Suits fit) {id : Id kind} :
    HasValue (rule.answer id) ↔
      ∀ other, ReflTransGen rule.Needs id other →
        fit other ∧ ¬ TransGen rule.Needs other other := by
  constructor
  · rintro ⟨value, hvalue⟩ other hreach
    have hother : HasValue (rule.answer other) := by
      induction hreach with
      | refl => exact ⟨value, hvalue⟩
      | tail _ hneeds ih =>
          obtain ⟨found, hfound⟩ := ih
          exact rule.needed (apply_answer hfound) _ hneeds
    obtain ⟨found, hfound⟩ := hother
    exact ⟨((h _ _).mp ⟨found, apply_answer hfound⟩).1, not_transGen_self hfound⟩
  · exact h.hasValue_answerFrom (leads_nil id)

end Rule

namespace SchemaSet

variable (set : SchemaSet)

theorem suits_scalarRule : set.scalarRule.Suits set.ScalarFit :=
  fun _ _ => Rules.hasValue_scalar_iff

theorem suits_attributesRule : set.attributesRule.Suits set.AttributesFit :=
  fun _ _ => Rules.hasValue_attributes_iff

theorem suits_membersRule : set.membersRule.Suits set.MembersFit :=
  fun _ _ => Rules.hasValue_members_iff

theorem suits_contentRule : set.contentRule.Suits set.ContentFit :=
  fun _ _ => Rules.hasValue_content_iff

end SchemaSet

end SchemaBinding
