import SchemaBinding.Proofs.Component.InStep

namespace SchemaBinding

namespace Reading

variable {base : Base}

/-- Each way of reading one element goes in step with that of reading another. -/
structure Places.InStep (base : Base) (places other : Places) : Prop where
  asType : ∀ since owner,
    Reading.InStep base since (fun pairing => pairing.id) (places.asType owner)
      (other.asType owner)
  asElement : ∀ since owner,
    Reading.InStep base since (fun pairing => pairing.id) (places.asElement owner)
      (other.asElement owner)
  asAttribute : ∀ since owner,
    Reading.InStep base since (fun pairing => pairing.id) (places.asAttribute owner)
      (other.asAttribute owner)
  asModelGroup : ∀ since type owner,
    Reading.InStep base since Particle.Matches (places.asModelGroup type owner)
      (other.asModelGroup type owner)
  asGroup : ∀ since owner,
    Reading.InStep base since (fun pairing => Option.Rel (Particle.Matches pairing))
      (places.asGroup owner) (other.asGroup owner)
  asAttributes : ∀ since owner,
    Reading.InStep base since (fun pairing => List.Forall₂ (AttributeItem.Matches pairing))
      (places.asAttributes owner) (other.asAttributes owner)
  asSimpleBody : ∀ since owner,
    Reading.InStep base since SimpleDerivation.Matches (places.asSimpleBody owner)
      (other.asSimpleBody owner)
  asContent : ∀ since owner,
    Reading.InStep base since Derivation.Matches (places.asContent owner) (other.asContent owner)
  asDerivation : ∀ since method content owner,
    Reading.InStep base since Derivation.Matches (places.asDerivation method content owner)
      (other.asDerivation method content owner)

structure Child.InStep (base : Base) (child other : Child) : Prop where
  element : child.element.Akin base.terms other.element
  places : child.places.InStep base other.places

theorem Child.InStep.tag_eq {child other : Child} (h : child.InStep base other) :
    child.tag = other.tag :=
  h.element.resembles.tag_eq

theorem Child.InStep.hasTag_eq {child other : Child} (h : child.InStep base other)
    (tags : List String) : child.hasTag tags = other.hasTag tags := by
  rw [hasTag, h.tag_eq, hasTag]

section

variable {α β : Type} {alike : α → β → Prop} {items : List α} {others : List β}

theorem find?_rel (hitems : List.Forall₂ alike items others) {test : α → Bool} {test' : β → Bool}
    (htest : ∀ item other, alike item other → test item = test' other) :
    Option.Rel alike (items.find? test) (others.find? test') := by
  induction hitems with
  | nil => exact .none
  | @cons item other rest rest' hitem _ ih =>
      rw [List.find?_cons, List.find?_cons, ← htest item other hitem]
      cases test item with
      | true => exact .some hitem
      | false => exact ih

theorem findSome?_rel {γ : Type} (hitems : List.Forall₂ alike items others) {key : α → Option γ}
    {key' : β → Option γ} (hkey : ∀ item other, alike item other → key item = key' other) :
    Option.Rel (fun found found' => alike found.1 found'.1 ∧ found.2 = found'.2)
      (items.findSome? fun item => (key item).map (item, ·))
      (others.findSome? fun other => (key' other).map (other, ·)) := by
  induction hitems with
  | nil => exact .none
  | @cons item other rest rest' hitem _ ih =>
      rw [List.findSome?_cons, List.findSome?_cons, ← hkey item other hitem]
      cases key item with
      | none => exact ih
      | some found => exact .some ⟨hitem, rfl⟩

theorem all_rel (hitems : List.Forall₂ alike items others) {test : α → Bool} {test' : β → Bool}
    (htest : ∀ item other, alike item other → test item = test' other) :
    items.all test = others.all test' := by
  induction hitems with
  | nil => rfl
  | @cons item other rest rest' hitem _ ih =>
      rw [List.all_cons, List.all_cons, htest item other hitem, ih]

end

section

variable {since : SymbolKind → Nat}

theorem inStep_innerType (owner : Option String) {child other : Child}
    (h : child.InStep base other) :
    InStep base since TypeRef.Matches (innerType owner child) (innerType owner other) :=
  (h.places.asType since owner).map fun _ _ _ => .inline

variable {element other : Xml.Element} {children others : List Child}

theorem inStep_groupUse (h : element.Resembles base.terms other) (flaw : Flaw) :
    InStep base since GroupUse.Matches (groupUse element flaw) (groupUse other flaw) := by
  apply (inStep_qualified? h (by decide)).bind_eq
  intro _ name _
  apply (inStep_expect element other flaw name).bind_eq
  intro _ found _
  exact (inStep_spanOf element other).map fun _ _ _ hspan => ⟨rfl, hspan⟩

theorem inStep_declaration (h : element.Resembles base.terms other)
    (hchildren : List.Forall₂ (Child.InStep base) children others) (scope : Option String) :
    InStep base since Declaration.Matches (declaration element children scope)
      (declaration other others scope) := by
  apply (inStep_qualified? h (by decide)).bind_eq
  intro _ target _
  cases target with
  | some target => exact inStep_pure fun _ _ => .reference target
  | none =>
      rw [h.tag_eq, h.plain "name" (by decide)]
      apply (inStep_expect element other _ _).bind_eq
      intro _ name _
      apply (inStep_qualified? h (by decide)).bind_eq
      intro _ type _
      cases type with
      | some type => exact inStep_pure fun _ _ => .named name (.some (.named type))
      | none =>
          have hfound := find?_rel hchildren fun _ _ hchild => hchild.hasTag_eq typeTags
          generalize children.find? (Child.hasTag typeTags) = found at hfound
          generalize others.find? (Child.hasTag typeTags) = found' at hfound
          cases hfound with
          | none => exact inStep_pure fun _ _ => .named name .none
          | some hchild =>
              exact (inStep_innerType _ hchild).map fun _ _ _ htype => .named name (.some htype)

theorem inStep_elementDecl (h : element.Resembles base.terms other)
    (hchildren : List.Forall₂ (Child.InStep base) children others) (scope : Option String) :
    InStep base since (fun pairing => pairing.id) (elementDecl element children scope)
      (elementDecl other others scope) := by
  apply (inStep_declaration h hchildren scope).bind
  intro later declared declared' _ hdeclared
  have hadded : ∀ last occurs, (∀ kind, later kind ≤ last kind) →
      InStep base last (fun pairing => pairing.id)
        (do addElement ⟨declared, occurs, (← read).targetSpace, element.documentation,
          ← spanOf element⟩)
        (do addElement ⟨declared', occurs, (← read).targetSpace, other.documentation,
          ← spanOf other⟩) := by
    intro last occurs hlast
    apply inStep_placed
    intro origin origin' span span' horigin hspan
    apply inStep_addElement
    intro pairing hwithin
    exact {
      declaration := (hdeclared.mono hlast) pairing hwithin
      occurs := rfl
      space := horigin.targetSpace
      documentation := fun hdocumented => h.documentation (hwithin.documented hdocumented)
      span := hwithin.document hspan }
  cases scope.isNone with
  | true => exact (inStep_same Occurs.once).bind_eq hadded
  | false => exact (inStep_occursOf h).bind_eq hadded

theorem inStep_attributeDecl (h : element.Resembles base.terms other)
    (hchildren : List.Forall₂ (Child.InStep base) children others) (scope : Option String) :
    InStep base since (fun pairing => pairing.id) (attributeDecl element children scope)
      (attributeDecl other others scope) := by
  apply (inStep_declaration h hchildren scope).bind
  intro later declared declared' _ hdeclared
  apply (inStep_useOf h).bind_eq
  intro last use hlast
  apply inStep_placed
  intro origin origin' span span' horigin hspan
  apply inStep_addAttribute
  intro pairing hwithin
  exact {
    declaration := (hdeclared.mono hlast) pairing hwithin
    use := rfl
    space := horigin.targetSpace
    documentation := fun hdocumented => h.documentation (hwithin.documented hdocumented)
    span := hwithin.document hspan }

/-! Containers. -/

theorem inStep_attributeItem? (scope : Option String) {child other : Child}
    (h : child.InStep base other) :
    InStep base since (fun pairing => Option.Rel (AttributeItem.Matches pairing))
      (attributeItem? scope child) (attributeItem? scope other) := by
  unfold attributeItem?
  rw [h.tag_eq]
  split
  · exact (h.places.asAttribute since scope).map fun _ _ _ hid => .some (.attribute hid)
  · exact (inStep_groupUse h.element.resembles _).map fun _ _ _ huse => .some (.group huse)
  · exact inStep_pure fun _ _ => .none

theorem inStep_attributeItems (hchildren : List.Forall₂ (Child.InStep base) children others)
    (scope : Option String) :
    InStep base since (fun pairing => List.Forall₂ (AttributeItem.Matches pairing))
      (attributeItems children scope) (attributeItems others scope) := by
  have hitems : InStep base since
      (fun pairing => List.Forall₂ (Option.Rel (AttributeItem.Matches pairing)))
      (children.mapM (attributeItem? scope)) (others.mapM (attributeItem? scope)) :=
    inStep_mapM hchildren fun _ _ _ hchild => inStep_attributeItem? scope hchild
  exact hitems.map fun _ _ _ hfound => List.rel_filterMap (fun _ _ hitem => hitem) hfound

theorem inStep_groupParticle (h : element.Resembles base.terms other) :
    InStep base since Particle.Matches (groupParticle element) (groupParticle other) := by
  apply (inStep_qualified? h (by decide)).bind_eq
  intro _ target _
  apply (inStep_expect element other _ target).bind_eq
  intro _ name _
  apply (inStep_occursOf h).bind_eq
  intro _ occurs _
  exact (inStep_spanOf element other).map fun _ _ _ hspan => .group occurs ⟨rfl, hspan⟩

theorem inStep_groupLike? (scope : Option String) {child other : Child}
    (h : child.InStep base other) :
    InStep base since (fun pairing => Option.Rel (Particle.Matches pairing))
      (groupLike? scope child) (groupLike? scope other) := by
  unfold groupLike?
  rw [h.tag_eq]
  split
  · exact (h.places.asModelGroup since _ scope).map fun _ _ _ hparticle => .some hparticle
  · split
    · exact (inStep_groupParticle h.element.resembles).map fun _ _ _ hparticle => .some hparticle
    · exact inStep_pure fun _ _ => .none

theorem inStep_particle? (scope : Option String) {child other : Child}
    (h : child.InStep base other) :
    InStep base since (fun pairing => Option.Rel (Particle.Matches pairing))
      (particle? scope child) (particle? scope other) := by
  unfold particle?
  rw [h.tag_eq]
  split
  · exact (h.places.asElement since scope).map fun _ _ _ hid => .some (.element hid)
  · exact inStep_groupLike? scope h

theorem inStep_modelGroup (h : element.Resembles base.terms other)
    (hchildren : List.Forall₂ (Child.InStep base) children others) (type : ModelType)
    (scope : Option String) :
    InStep base since Particle.Matches (modelGroup element children type scope)
      (modelGroup other others type scope) := by
  apply (inStep_occursOf h).bind_eq
  intro later occurs _
  have hparticles : InStep base later
      (fun pairing => List.Forall₂ (Option.Rel (Particle.Matches pairing)))
      (children.mapM (particle? scope)) (others.mapM (particle? scope)) :=
    inStep_mapM hchildren fun _ _ _ hchild => inStep_particle? scope hchild
  exact hparticles.map fun _ _ _ hfound => .model type occurs
    (List.rel_filterMap (fun _ _ hparticle => hparticle) hfound)

theorem inStep_firstModelGroup (hchildren : List.Forall₂ (Child.InStep base) children others)
    (scope : Option String) :
    InStep base since (fun pairing => Option.Rel (Particle.Matches pairing))
      (firstModelGroup children scope) (firstModelGroup others scope) := by
  have hfound := findSome?_rel hchildren fun child other hchild =>
    congrArg ModelType.ofTag? hchild.tag_eq
  unfold firstModelGroup
  generalize (children.findSome? fun child => (ModelType.ofTag? child.tag).map (child, ·)) = found
    at hfound ⊢
  generalize (others.findSome? fun child => (ModelType.ofTag? child.tag).map (child, ·)) = found'
    at hfound ⊢
  cases hfound with
  | none => exact inStep_pure fun _ _ => .none
  | @some found found' hfound =>
      obtain ⟨child, type⟩ := found
      obtain ⟨child', type'⟩ := found'
      obtain ⟨hchild, rfl⟩ := hfound
      exact (hchild.places.asModelGroup since type scope).map fun _ _ _ hparticle =>
        .some hparticle

theorem inStep_singleGroup (element other : Xml.Element) (scope : Option String)
    {found found' : Option Particle}
    (hfound : base.Holds since fun pairing => Option.Rel (Particle.Matches pairing) found found')
    {child child' : Child} (h : child.InStep base child') :
    InStep base since (fun pairing => Option.Rel (Particle.Matches pairing))
      (singleGroup element scope found child) (singleGroup other scope found' child') := by
  apply (inStep_groupLike? scope h).bind
  intro later group group' hlater hgroup
  have hsome : found.isSome = found'.isSome := by
    cases hfound.here <;> rfl
  cases hgroup.here with
  | none => exact inStep_pure (hfound.mono hlater)
  | some _ =>
      simp only [hsome]
      split
      · exact (inStep_malformed element other _).bind_eq fun _ _ hlast =>
          inStep_pure (hgroup.mono hlast)
      · exact inStep_pure hgroup

theorem inStep_container (element other : Xml.Element)
    (hchildren : List.Forall₂ (Child.InStep base) children others) (scope : Option String) :
    InStep base since Container.Matches (container element children scope)
      (container other others scope) := by
  apply (inStep_attributeItems hchildren scope).bind
  intro later items items' _ hitems
  have hgroups : InStep base later (fun pairing => Option.Rel (Particle.Matches pairing))
      (children.foldlM (singleGroup element scope) none)
      (others.foldlM (singleGroup other scope) none) :=
    inStep_foldlM hchildren
      (fun _ _ _ _ _ hchild hfound => inStep_singleGroup element other scope hfound hchild)
      fun _ _ => .none
  apply hgroups.bind
  intro last particle particle' hlast hparticle
  apply inStep_pure
  intro pairing hwithin
  exact ⟨(hitems.mono hlast) pairing hwithin, hparticle pairing hwithin⟩

/-- A body made of one type, which is named under a key or else written inside. -/
theorem inStep_givenType (h : element.Resembles base.terms other)
    (hchildren : List.Forall₂ (Child.InStep base) children others) (owner : Option String)
    {key : String} (hkey : key ∈ Xml.Element.nameKeys) (flaw : Flaw)
    {body : TypeRef → SimpleDerivation}
    (hbody : ∀ pairing type type', TypeRef.Matches pairing type type' →
      (body type).Matches pairing (body type')) :
    InStep base since SimpleDerivation.Matches
      (do match ← qualified? element key with
          | some name => return body (.named name)
          | none =>
            let child ← expect element flaw (children.find? (Child.hasTag ["simpleType"]))
            return body (← innerType owner child))
      (do match ← qualified? other key with
          | some name => return body (.named name)
          | none =>
            let child ← expect other flaw (others.find? (Child.hasTag ["simpleType"]))
            return body (← innerType owner child)) := by
  apply (inStep_qualified? h hkey).bind_eq
  intro _ name _
  cases name with
  | some name => exact inStep_pure fun pairing _ => hbody pairing _ _ (.named name)
  | none =>
      apply inStep_expect_bind element other _
        (find?_rel hchildren fun _ _ hchild => hchild.hasTag_eq _)
      intro child child' hchild
      exact (inStep_innerType owner hchild).map hbody

theorem inStep_restrictionBody (h : element.Akin base.terms other)
    (hchildren : List.Forall₂ (Child.InStep base) children others) (owner : Option String) :
    InStep base since SimpleDerivation.Matches (restrictionBody element children owner)
      (restrictionBody other others owner) := by
  unfold restrictionBody
  rw [facetsOf_akin h]
  exact inStep_givenType h.resembles hchildren owner (by decide) .restrictionWithoutBase
    fun _ _ _ => .restriction _

theorem inStep_listBody (h : element.Resembles base.terms other)
    (hchildren : List.Forall₂ (Child.InStep base) children others) (owner : Option String) :
    InStep base since SimpleDerivation.Matches (listBody element children owner)
      (listBody other others owner) :=
  inStep_givenType h hchildren owner (by decide) .listWithoutItem fun _ _ _ => .list

theorem inStep_unionBody (h : element.Resembles base.terms other)
    (hchildren : List.Forall₂ (Child.InStep base) children others) (owner : Option String) :
    InStep base since SimpleDerivation.Matches (unionBody element children owner)
      (unionBody other others owner) := by
  have hnames : InStep base since equal
      ((Text.words ((element.attribute? "memberTypes").getD "")).mapM (qualified element))
      ((Text.words ((other.attribute? "memberTypes").getD "")).mapM (qualified other)) := by
    rw [mapM_qualified_eq, mapM_qualified_eq, ← Xml.Element.members, h.members, Xml.Element.members]
    exact inStep_lifts _
  apply hnames.bind_eq
  intro later names _
  have hinner : InStep base later (fun pairing => List.Forall₂ (TypeRef.Matches pairing))
      ((children.filter (Child.hasTag ["simpleType"])).mapM (innerType owner))
      ((others.filter (Child.hasTag ["simpleType"])).mapM (innerType owner)) :=
    inStep_mapM (List.rel_filter (fun _ _ hchild => (hchild.hasTag_eq _).congr_left) hchildren)
      fun _ _ _ hchild => inStep_innerType owner hchild
  apply hinner.bind
  intro last inner inner' _ hall
  have hempty : inner.isEmpty = inner'.isEmpty := by
    cases hall.here <;> rfl
  have hnamed : ∀ pairing, List.Forall₂ (TypeRef.Matches pairing) (names.map TypeRef.named)
      (names.map TypeRef.named) := by
    intro pairing
    apply List.forall₂_same.mpr
    intro member hmember
    obtain ⟨name, _, rfl⟩ := List.mem_map.mp hmember
    exact .named name
  have hbody : base.Holds last fun pairing =>
      (SimpleDerivation.union (names.map TypeRef.named ++ inner)).Matches pairing
        (.union (names.map TypeRef.named ++ inner')) :=
    hall.imp fun pairing hinner => .union (List.rel_append (hnamed pairing) hinner)
  simp only [hempty]
  split
  · exact (inStep_malformed element other _).bind_eq fun _ _ hmore =>
      inStep_pure (hbody.mono hmore)
  · exact inStep_pure hbody

theorem inStep_simpleBody (h : element.Akin base.terms other)
    (hchildren : List.Forall₂ (Child.InStep base) children others) (owner : Option String) :
    InStep base since SimpleDerivation.Matches (simpleBody element children owner)
      (simpleBody other others owner) := by
  unfold simpleBody
  rw [h.resembles.tag_eq]
  split
  · exact inStep_restrictionBody h hchildren owner
  · exact inStep_listBody h.resembles hchildren owner
  · exact inStep_unionBody h.resembles hchildren owner

theorem inStep_simpleType (h : element.Resembles base.terms other)
    (hchildren : List.Forall₂ (Child.InStep base) children others) (owner : Option String) :
    InStep base since (fun pairing => pairing.id) (simpleType element children owner)
      (simpleType other others owner) := by
  apply inStep_expect_bind element other _
    (find?_rel hchildren fun _ _ hchild => hchild.hasTag_eq _)
  intro child child' hchild
  rw [innerOwner_eq h]
  apply (hchild.places.asSimpleBody _ _).bind
  intro later derivation derivation' _ hderivation
  apply (inStep_typeDef h owner (hderivation.imp fun _ => .simple)).bind
  intro last type type' _ htype
  exact inStep_addType htype

theorem inStep_simpleRestriction (h : element.Akin base.terms other)
    (hchildren : List.Forall₂ (Child.InStep base) children others) (owner : Option String) :
    InStep base since
      (fun pairing found found' => Option.Rel pairing.id found.1 found'.1 ∧ found.2 = found'.2)
      (simpleRestriction element children owner) (simpleRestriction other others owner) := by
  have hfound := find?_rel hchildren fun _ _ hchild => hchild.hasTag_eq ["simpleType"]
  unfold simpleRestriction
  rw [facetsOf_akin h]
  generalize children.find? (Child.hasTag ["simpleType"]) = found at hfound ⊢
  generalize others.find? (Child.hasTag ["simpleType"]) = found' at hfound ⊢
  cases hfound with
  | none => exact inStep_pure fun _ _ => ⟨.none, rfl⟩
  | some hchild =>
      exact (hchild.places.asType since owner).map fun _ _ _ hid => ⟨.some hid, rfl⟩

theorem inStep_derivation (h : element.Akin base.terms other)
    (hchildren : List.Forall₂ (Child.InStep base) children others) (method : DerivationMethod)
    (content : String) (owner : Option String) :
    InStep base since Derivation.Matches (derivation element children method content owner)
      (derivation other others method content owner) := by
  apply (inStep_qualified? h.resembles (by decide)).bind_eq
  intro _ name? _
  apply (inStep_expect element other _ name?).bind_eq
  intro later name _
  have hrest : ∀ last (found found' : Option TypeId × Facets), (∀ kind, later kind ≤ last kind) →
      (base.Holds last fun pairing =>
        Option.Rel pairing.id found.1 found'.1 ∧ found.2 = found'.2) →
      InStep base last Derivation.Matches
        (do return ⟨method, name, ← container element children owner, found.1, found.2,
          ← spanOf element⟩)
        (do return ⟨method, name, ← container other others owner, found'.1, found'.2,
          ← spanOf other⟩) := by
    intro last found found' _ hfound
    apply (inStep_container element other hchildren owner).bind
    intro more body body' hmore hbody
    apply (inStep_spanOf element other).bind
    intro final span span' hfinal hspan
    apply inStep_pure
    intro pairing hwithin
    have hinline := ((hfound.mono hmore).mono hfinal) pairing hwithin
    exact {
      method := rfl
      base := rfl
      container := (hbody.mono hfinal) pairing hwithin
      inlineSimple := hinline.1
      facets := hinline.2
      span := hspan pairing hwithin }
  by_cases hsimple : content = "simpleContent" ∧ method = .restriction
  · simp only [if_pos hsimple]
    exact (inStep_simpleRestriction h hchildren owner).bind hrest
  · simp only [if_neg hsimple]
    have hnone : InStep base later
        (fun pairing (found found' : Option TypeId × Facets) =>
          Option.Rel pairing.id found.1 found'.1 ∧ found.2 = found'.2)
        (pure (none, {})) (pure (none, {})) :=
      inStep_pure fun _ _ => ⟨.none, rfl⟩
    exact hnone.bind hrest

theorem inStep_content (h : element.Resembles base.terms other)
    (hchildren : List.Forall₂ (Child.InStep base) children others) (owner : Option String) :
    InStep base since Derivation.Matches (content element children owner)
      (content other others owner) := by
  have hfound : Option.Rel
      (fun found found' => Child.InStep base found.1 found'.1 ∧ found.2 = found'.2)
      (derivedBy? children) (derivedBy? others) :=
    findSome?_rel hchildren fun child other hchild =>
      congrArg DerivationMethod.ofTag? hchild.tag_eq
  unfold content
  rw [h.tag_eq]
  apply inStep_expect_bind element other _ hfound
  rintro ⟨child, method⟩ ⟨child', method'⟩ ⟨hchild, rfl⟩
  exact hchild.places.asDerivation since method other.tag owner

theorem inStep_complexContent (element other : Xml.Element)
    (hchildren : List.Forall₂ (Child.InStep base) children others) (owner : Option String) :
    InStep base since ComplexContent.Matches (complexContent element children owner)
      (complexContent other others owner) := by
  have hsimple := find?_rel hchildren fun _ _ hchild => hchild.hasTag_eq ["simpleContent"]
  have hcomplex := find?_rel hchildren fun _ _ hchild => hchild.hasTag_eq ["complexContent"]
  have hempty := all_rel hchildren fun _ _ hchild => hchild.hasTag_eq ["annotation"]
  unfold complexContent
  generalize children.find? (Child.hasTag ["simpleContent"]) = found at hsimple ⊢
  generalize others.find? (Child.hasTag ["simpleContent"]) = found' at hsimple ⊢
  generalize children.find? (Child.hasTag ["complexContent"]) = found at hcomplex ⊢
  generalize others.find? (Child.hasTag ["complexContent"]) = found' at hcomplex ⊢
  cases hsimple with
  | some hchild =>
      exact (hchild.places.asContent since owner).map fun _ _ _ => .simple
  | none =>
      cases hcomplex with
      | some hchild =>
          exact (hchild.places.asContent since owner).map fun _ _ _ => .complex
      | none =>
          apply inStep_read
          intro origin origin' horigin
          have hdirect : ∀ later, InStep base later ComplexContent.Matches
              (do return .direct (← container element children owner))
              (do return .direct (← container other others owner)) := fun later =>
            (inStep_container element other hchildren owner).map fun _ _ _ => .direct
          rw [hempty]
          rcases horigin.permissive with heq | ⟨heased, hstrict⟩
          · rw [heq]
            split
            · exact (inStep_malformed element other _).bind_eq fun later _ _ => hdirect later
            · exact hdirect since
          · cases others.all (Child.hasTag ["annotation"]) with
            | false =>
                simp only [Bool.and_false]
                exact hdirect since
            | true =>
                rw [hstrict]
                exact inStep_eased heased element _ _ _

theorem inStep_complexType (h : element.Resembles base.terms other)
    (hchildren : List.Forall₂ (Child.InStep base) children others) (owner : Option String) :
    InStep base since (fun pairing => pairing.id) (complexType element children owner)
      (complexType other others owner) := by
  unfold complexType
  rw [innerOwner_eq h, isMixed_eq h]
  apply (inStep_complexContent element other hchildren _).bind
  intro later content content' _ hcontent
  apply (inStep_typeDef h owner (hcontent.imp fun _ => .complex _)).bind
  intro last type type' _ htype
  exact inStep_addType htype

/-! The whole tree. -/

theorem inStep_placesOf (h : element.Akin base.terms other)
    (hchildren : List.Forall₂ (Child.InStep base) children others) :
    (placesOf element children).InStep base (placesOf other others) where
  asType since owner := by
    simp only [placesOf, h.resembles.tag_eq]
    split
    · exact inStep_simpleType h.resembles hchildren owner
    · exact inStep_complexType h.resembles hchildren owner
  asElement _ := inStep_elementDecl h.resembles hchildren
  asAttribute _ := inStep_attributeDecl h.resembles hchildren
  asModelGroup _ := inStep_modelGroup h.resembles hchildren
  asGroup _ := inStep_firstModelGroup hchildren
  asAttributes _ := inStep_attributeItems hchildren
  asSimpleBody _ := inStep_simpleBody h hchildren
  asContent _ := inStep_content h.resembles hchildren
  asDerivation _ := inStep_derivation h hchildren

end

theorem inStep_of (base : Base) (element other : Xml.Element)
    (h : element.Akin base.terms other) : (Child.of element).InStep base (Child.of other) := by
  refine ⟨h, ?_⟩
  have hchildren : List.Forall₂ (Child.InStep base) (element.parts.map Child.of)
      (other.parts.map Child.of) := by
    rw [List.forall₂_map_left_iff, List.forall₂_map_right_iff]
    refine List.Forall₂.imp ?_
      ((List.forall₂_and_left element.parts other.parts).mpr ⟨fun _ hchild => hchild, h.parts⟩)
    rintro child child' ⟨hchild, hakin⟩
    have hlt := Xml.Element.sizeOf_lt_of_parts hchild
    exact inStep_of base child child' hakin
  change (places element).InStep base (places other)
  rw [places_eq, places_eq]
  exact inStep_placesOf h hchildren
termination_by sizeOf element

end Reading

end SchemaBinding
