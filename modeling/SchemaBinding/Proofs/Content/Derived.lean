import SchemaBinding.Proofs.Content.Levels
import SchemaBinding.Proofs.SchemaSet.Lookup

namespace SchemaBinding

/-- What a complex type declares itself, be it directly or in its derivation. -/
def TypeBody.container? : TypeBody → Option Container
  | .simple _ => none
  | .complex (.direct container) _ => some container
  | .complex (.simple derivation) _ => some derivation.container
  | .complex (.complex derivation) _ => some derivation.container

namespace SchemaSet

def HasContainer (set : SchemaSet) (id : TypeId) (container : Container) : Prop :=
  ∃ type, set.typeDef id = .ok type ∧ type.body.container? = some container

def DeclaresOwn (set : SchemaSet) (id : TypeId) (own : List Member) : Prop :=
  ∃ container, set.HasContainer id container ∧ set.Declares container own

/-- The type has simple content over a complex type. -/
def Flattens (set : SchemaSet) (id base : TypeId) : Prop :=
  ∃ type derivation mixed, set.typeDef id = .ok type ∧
    type.body = .complex (.simple derivation) mixed ∧
    set.resolveTypeName derivation.base derivation.span = .ok (.complex base)

/-- The members that simple content takes over from a base. -/
inductive Lends (set : SchemaSet) (id : TypeId) : List Member → Prop
  | base {base : TypeId} {inherited : Content} :
      set.Flattens id base → set.HasContent base inherited → Lends set id inherited.members
  | none : (∀ base, ¬ set.Flattens id base) → Lends set id []

/-- The field name is that of the text, or can be seen on the embedded base. -/
def Reserves (set : SchemaSet) (id : TypeId) (name : String) : Prop :=
  set.IsSimpleContent id ∧ name = Content.textFieldName ∨
    ∃ base inherited, set.Extends id base ∧ set.HasContent base inherited ∧
      name ∈ inherited.fieldNames

variable {set : SchemaSet} {id base : TypeId} {parts : ContentParts} {inherited : Content}

theorem HasContainer.unique {first second : Container} (h : set.HasContainer id first)
    (h' : set.HasContainer id second) : first = second := by
  obtain ⟨type, htype, hcontainer⟩ := h
  obtain ⟨type', htype', hcontainer'⟩ := h'
  cases eq_of_ok htype htype'
  exact Option.some.inj (hcontainer.symm.trans hcontainer')

theorem DeclaresOwn.unique {first second : List Member} (h : set.DeclaresOwn id first)
    (h' : set.DeclaresOwn id second) : first = second := by
  obtain ⟨container, hcontainer, hown⟩ := h
  obtain ⟨container', hcontainer', hown'⟩ := h'
  cases hcontainer.unique hcontainer'
  exact hown.unique hown'

theorem Flattens.not_extends (h : set.Flattens id base) {other : TypeId} :
    ¬ set.Extends id other := by
  rintro ⟨type', derivation', mixed', htype', hbody', _⟩
  obtain ⟨type, derivation, mixed, htype, hbody, _⟩ := h
  cases eq_of_ok htype htype'
  rw [hbody] at hbody'
  cases hbody'

theorem Extends.needs (h : set.Extends id base) : set.ContentNeeds id base := by
  obtain ⟨type, derivation, mixed, htype, hbody, hmethod, hbase⟩ := h
  exact ⟨type, derivation, htype, by simp [lender?, hbody, hmethod], hbase⟩

theorem Flattens.unique {other : TypeId} (h : set.Flattens id base)
    (h' : set.Flattens id other) : base = other := by
  obtain ⟨type, derivation, mixed, htype, hbody, hbase⟩ := h
  obtain ⟨type', derivation', mixed', htype', hbody', hbase'⟩ := h'
  cases eq_of_ok htype htype'
  rw [hbody] at hbody'
  cases hbody'
  cases eq_of_ok hbase hbase'
  rfl

theorem Flattens.reserves_iff (h : set.Flattens id base) {name : String} :
    set.Reserves id name ↔ name = Content.textFieldName := by
  have hsimple : set.IsSimpleContent id := by
    obtain ⟨type, derivation, mixed, htype, hbody, _⟩ := h
    exact ⟨type, derivation, mixed, htype, hbody⟩
  simp [Reserves, hsimple, h.not_extends]

theorem Flattens.exists_lent (h : set.Flattens id base) {lent : List Member}
    (hlends : set.Lends id lent) :
    ∃ inherited, set.HasContent base inherited ∧ lent = inherited.members := by
  cases hlends with
  | base hother hinherited =>
      cases h.unique hother
      exact ⟨_, hinherited, rfl⟩
  | none hnone => exact absurd h (hnone base)

theorem HasParts.mem_taken_iff (h : set.HasParts id parts) {name : String} :
    name ∈ parts.taken ↔ set.Reserves id name := by
  rw [Reserves, ← h.text_iff]
  simp only [← h.base_iff]
  obtain ⟨type, _, hparts⟩ := h
  generalize type.body = body at hparts
  cases hparts with
  | flattened | simple => simp
  | @embedded derivation mixed base inherited own hmethod hname hinherited hown =>
      constructor
      · intro hmem
        exact .inr ⟨base, inherited, rfl, hinherited, hmem⟩
      · rintro (⟨hsome, _⟩ | ⟨other, found, hbase, hfound, hmem⟩)
        · cases hsome
        · cases hbase
          exact hfound.unique hinherited ▸ hmem
  | direct | anything | restriction => simp

/-- What a type takes over stands before what it declares itself. -/
theorem HasParts.exists_split (h : set.HasParts id parts) :
    ∃ lent own, set.Lends id lent ∧ set.DeclaresOwn id own ∧ parts.entries = lent ++ own := by
  obtain ⟨type, htype, hparts⟩ := h
  have hlends (hnone : ∀ derivation mixed base,
      type.body = .complex (.simple derivation) mixed →
        set.resolveTypeName derivation.base derivation.span ≠ .ok (.complex base)) :
      set.Lends id [] := by
    refine .none ?_
    rintro base ⟨type', derivation, mixed, htype', hbody, hbase⟩
    cases eq_of_ok htype htype'
    exact hnone derivation mixed base hbody hbase
  have hdeclares {container : Container} {own : List Member}
      (hcontainer : type.body.container? = some container)
      (hown : set.Declares container own) : set.DeclaresOwn id own :=
    ⟨container, ⟨type, htype, hcontainer⟩, hown⟩
  generalize hbody : type.body = body at *
  cases hparts with
  | flattened hname hinherited _ hown =>
      exact ⟨_, _, .base ⟨type, _, _, htype, hbody, hname⟩ hinherited, hdeclares rfl hown, rfl⟩
  | simple hname hnone _ hown =>
      refine ⟨[], _, hlends ?_, hdeclares rfl hown, rfl⟩
      rintro derivation mixed base ⟨⟩ hbase
      cases eq_of_ok hbase hname
      cases hnone
  | direct hown | embedded _ _ _ hown | anything _ _ hown | restriction _ hown =>
      refine ⟨[], _, hlends ?_, hdeclares rfl hown, rfl⟩
      intro derivation mixed base hshape
      cases hshape

def container? (set : SchemaSet) (id : TypeId) : Option Container := do
  let type ← (set.typeDef id).toOption
  type.body.container?

theorem hasContainer_of_container? {container : Container}
    (h : set.container? id = some container) : set.HasContainer id container := by
  obtain ⟨type, htype, hcontainer⟩ := Option.bind_eq_some_iff.mp h
  exact ⟨type, eq_ok_of_toOption htype, hcontainer⟩

def ownMembers? (set : SchemaSet) (id : TypeId) : Option (List Member) := do
  let container ← set.container? id
  (Rules.ownMembers set set.answers container).toOption

theorem exists_ownMembers {own : List Member} (hown : set.ownMembers? id = some own) :
    ∃ container, set.HasContainer id container ∧
      Rules.ownMembers set set.answers container = .ok own := by
  obtain ⟨container, hcontainer, hown⟩ := Option.bind_eq_some_iff.mp hown
  exact ⟨container, hasContainer_of_container? hcontainer, eq_ok_of_toOption hown⟩

theorem Extends.hasContent (h : set.Extends id base) (hinherited : set.HasContent base inherited)
    {own : List Member} (hown : set.ownMembers? id = some own) :
    set.HasContent id
      (Content.addAll { base := base, fieldNames := inherited.fieldNames } own) := by
  obtain ⟨type, derivation, mixed, htype, hbody, hmethod, hbase⟩ := h
  obtain ⟨container, ⟨type', htype', hcontainer⟩, hown⟩ := exists_ownMembers hown
  cases eq_of_ok htype htype'
  rw [hbody] at hcontainer
  cases hcontainer
  have hstart : Rules.contentStart set set.answers derivation (.complex base) =
      .ok { base := base, fieldNames := inherited.fieldNames } := by
    simp only [Rules.contentStart, hmethod, Rules.extended, bind_eq_ok_iff]
    exact ⟨inherited, Query.gives_iff.mp hinherited, rfl⟩
  apply Query.gives_iff.mpr
  apply Rule.answer_of_apply
  change Rules.content set set.answers id = _
  simp only [Rules.content, given_eq, bind_eq_ok_iff]
  refine ⟨type, htype, ?_⟩
  simp only [Rules.bodyContent, hbody, Rules.complexContent, given_eq, bind_eq_ok_iff]
  exact ⟨_, hbase, _, hstart, own, hown, rfl⟩

theorem Flattens.exists_hasContent (h : set.Flattens id base)
    (hinherited : set.HasContent base inherited) {scalar : Scalar}
    (hscalar : set.HasScalar id scalar) {own : List Member}
    (hown : set.ownMembers? id = some own) :
    ∃ facets, set.HasContent id (Content.addAll
      { text := some ⟨scalar, facets⟩, fieldNames := [Content.textFieldName] }
      (inherited.members ++ own)) := by
  obtain ⟨type, derivation, mixed, htype, hbody, hbase⟩ := h
  obtain ⟨container, ⟨type', htype', hcontainer⟩, hown⟩ := exists_ownMembers hown
  cases eq_of_ok htype htype'
  rw [hbody] at hcontainer
  cases hcontainer
  have hmembers : Rules.flattenedMembers set.answers (.complex base) = .ok inherited.members := by
    simp only [Rules.flattenedMembers, bind_eq_ok_iff]
    exact ⟨inherited, Query.gives_iff.mp hinherited, rfl⟩
  refine ⟨derivation.facets, ?_⟩
  apply Query.gives_iff.mpr
  apply Rule.answer_of_apply
  change Rules.content set set.answers id = _
  simp only [Rules.content, given_eq, bind_eq_ok_iff]
  refine ⟨type, htype, ?_⟩
  simp only [Rules.bodyContent, hbody, Rules.simpleContent, given_eq, bind_eq_ok_iff]
  exact ⟨scalar, Query.gives_iff.mp hscalar, _, hbase, _, hmembers, own, hown, rfl⟩

/-- The complex type that a derivation is from, where its document declares it and has no links. -/
def nearBase? (set : SchemaSet) (derivation : Derivation) : Option TypeId := do
  let document ← set.document? derivation.span.document
  guard (document.links = [])
  guard (derivation.base.inNamespace (some xsdNamespace) = false)
  let id ← set.declaredIn? .type derivation.base derivation.span.document
  guard ((set.typeTarget id).toOption = some (.complex id))
  return id

theorem resolveTypeName_of_nearBase? {derivation : Derivation}
    (h : set.nearBase? derivation = some base) :
    set.resolveTypeName derivation.base derivation.span = .ok (.complex base) := by
  simp only [nearBase?, Option.bind_eq_bind, Option.bind_eq_some_iff, Option.guard_eq_some'] at h
  obtain ⟨document, hdocument, _, hlinks, _, hspace, found, hfound, _, htarget, heq⟩ := h
  cases heq
  rw [resolveTypeName, hspace, resolve, lookup?_of_links_nil hdocument hlinks, hfound]
  exact eq_ok_of_toOption htarget

/-- What a type reference stands for, where its document declares the type and has no links. -/
def nearTarget? (set : SchemaSet) (span : Span) : TypeRef → Option TypeTarget
  | .named name => do
      let document ← set.document? span.document
      guard (document.links = [])
      guard (name.inNamespace (some xsdNamespace) = false)
      let id ← set.declaredIn? .type name span.document
      (set.typeTarget id).toOption
  | .inline id => (set.typeTarget id).toOption

theorem resolveTypeRef_of_nearTarget? {reference : TypeRef} {span : Span} {target : TypeTarget}
    (h : set.nearTarget? span reference = some target) :
    set.resolveTypeRef reference span = .ok target := by
  cases reference with
  | inline id => exact eq_ok_of_toOption h
  | named name =>
      simp only [nearTarget?, Option.bind_eq_bind, Option.bind_eq_some_iff,
        Option.guard_eq_some'] at h
      obtain ⟨document, hdocument, _, hlinks, _, hspace, found, hfound, htarget⟩ := h
      rw [resolveTypeRef, resolveTypeName, hspace, resolve, lookup?_of_links_nil hdocument hlinks,
        hfound]
      exact eq_ok_of_toOption htarget

def nearFlattened? (set : SchemaSet) (id : TypeId) : Option TypeId :=
  match (set.typeDef id).toOption.map TypeDef.body with
  | some (.complex (.simple derivation) _) => set.nearBase? derivation
  | _ => none

theorem flattens_of_nearFlattened? (h : set.nearFlattened? id = some base) :
    set.Flattens id base := by
  unfold nearFlattened? at h
  split at h
  case h_1 derivation mixed hshape =>
      obtain ⟨type, htype, hbody⟩ := Option.map_eq_some_iff.mp hshape
      exact ⟨type, derivation, mixed, eq_ok_of_toOption htype, hbody,
        resolveTypeName_of_nearBase? h⟩
  case h_2 => cases h

def nearExtended? (set : SchemaSet) (id : TypeId) : Option TypeId :=
  match (set.typeDef id).toOption.map TypeDef.body with
  | some (.complex (.complex derivation) _) =>
      if derivation.method = .extension then set.nearBase? derivation else none
  | _ => none

theorem extends_of_nearExtended? (h : set.nearExtended? id = some base) :
    set.Extends id base := by
  unfold nearExtended? at h
  split at h
  case h_1 derivation mixed hshape =>
      obtain ⟨type, htype, hbody⟩ := Option.map_eq_some_iff.mp hshape
      obtain ⟨hmethod, h⟩ := Option.ite_none_right_eq_some.mp h
      exact ⟨type, derivation, mixed, eq_ok_of_toOption htype, hbody, hmethod,
        resolveTypeName_of_nearBase? h⟩
  case h_2 => cases h

end SchemaSet

end SchemaBinding
