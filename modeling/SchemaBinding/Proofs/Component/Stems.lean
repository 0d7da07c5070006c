import SchemaBinding.Proofs.Component.Provenance

namespace SchemaBinding

namespace Reading

open Xml (Element)

variable {α β : Type} {origin : Origin} {model : Model} {Fine : Model → β → Prop}

section

variable (element : Element)

theorem makes_spanOf : Makes origin model
    (fun later span => later = model ∧ span.document = origin.document) (spanOf element) := by
  apply makes_read.bind
  rintro later found _ ⟨rfl, rfl⟩
  exact makes_pure ⟨rfl, rfl⟩

theorem makes_placed {build : Origin → Span → Reading α} {Good : Model → α → Prop}
    (h : ∀ span, span.document = origin.document → Makes origin model Good (build origin span)) :
    Makes origin model Good (do build (← read) (← spanOf element)) := by
  apply makes_read.bind
  rintro later found _ ⟨rfl, rfl⟩
  apply (makes_spanOf element).bind
  rintro later span _ ⟨rfl, hspan⟩
  exact h span hspan

theorem makes_expect (flaw : Flaw) (value? : Option α) : Makes origin model
    (fun later value => later = model ∧ value? = some value) (expect element flaw value?) := by
  cases value? with
  | none => exact makes_malformed element flaw
  | some value => exact makes_pure ⟨rfl, rfl⟩

theorem makes_required (key : String) : Makes origin model
    (fun later value => later = model ∧ element.attribute? key = some value)
    (required element key) :=
  makes_expect element _ _

theorem makes_qualified (name : String) : Makes origin model
    (fun later found => later = model ∧ element.bindings.resolve name = .ok found)
    (qualified element name) :=
  makes_lift (element.bindings.resolve name)

theorem makes_qualified? (key : String) : Makes origin model
    (fun later found => later = model ∧ ∀ name, found = some name →
      ∃ written, element.attribute? key = some written ∧
        element.bindings.resolve written = .ok name)
    (qualified? element key) := by
  unfold qualified?
  split
  case h_1 => exact makes_pure ⟨rfl, fun _ h => nomatch h⟩
  case h_2 written hwritten =>
      apply (makes_qualified element written).map
      rintro later found ⟨rfl, hfound⟩
      refine ⟨rfl, ?_⟩
      rintro name ⟨⟩
      exact ⟨written, hwritten, hfound⟩

theorem makes_occursOf : Makes origin model (fun later _ => later = model) (occursOf element) := by
  unfold occursOf
  split
  · exact makes_pure rfl
  · exact makes_malformed element _

theorem makes_useOf : Makes origin model (fun later _ => later = model) (useOf element) := by
  unfold useOf
  split
  · exact makes_pure rfl
  · exact (makes_expect element _ _).imp fun _ _ h => h.1

theorem makes_typeDef (owner : Option String) (body : TypeBody) : Makes origin model
    (fun later type => later = model ∧ type.owner = owner ∧ type.name = element.attribute? "name" ∧
      type.body = body ∧ type.space = origin.targetSpace ∧ type.span.document = origin.document)
    (typeDef element owner body) := by
  apply makes_placed element
  intro span hspan
  exact makes_pure ⟨rfl, rfl, rfl, rfl, rfl, hspan⟩

end

/-- What an element is read as is owned by what is around it, and has the name of the element. -/
def Declares (origin : Origin) (element : Element) (scope : Option String) {kind : SymbolKind}
    (model : Model) (id : Id kind) : Prop :=
  model.Owns origin.targetSpace scope ⟨kind, id⟩ ∧
    model.Titles (element.attribute? "name") ⟨kind, id⟩

/-- In whatever place an element is read, what is made stems from the document. -/
structure Places.Stem (origin : Origin) (element : Element) (places : Places) : Prop where
  asType : ∀ model owner, Makes origin model (Declares origin element owner) (places.asType owner)
  asElement : ∀ model scope, Makes origin model (Declares origin element scope)
    (places.asElement scope)
  asAttribute : ∀ model scope, Makes origin model (Declares origin element scope)
    (places.asAttribute scope)
  asModelGroup : ∀ model type scope, Makes origin model
    (fun later particle => Sound origin later scope particle.mentions particle.references)
    (places.asModelGroup type scope)
  asGroup : ∀ model scope, Makes origin model
    (fun later particle? => Sound origin later scope (.all Particle.mentions particle?.toList)
      (particle?.toList.flatMap Particle.references))
    (places.asGroup scope)
  asAttributes : ∀ model scope, Makes origin model
    (fun later items => Sound origin later scope (.all AttributeItem.mentions items)
      (items.flatMap AttributeItem.references))
    (places.asAttributes scope)
  asSimpleBody : ∀ model owner, Makes origin model
    (fun later derivation => derivation.HasMember ∧
      Sound origin later owner derivation.mentions derivation.references)
    (places.asSimpleBody owner)
  asContent : ∀ model owner, Makes origin model
    (fun later derivation => Sound origin later owner derivation.mentions derivation.references)
    (places.asContent owner)
  asDerivation : ∀ model method content owner, Makes origin model
    (fun later derivation => Sound origin later owner derivation.mentions derivation.references)
    (places.asDerivation method content owner)

structure Child.Stems (origin : Origin) (child : Child) : Prop where
  inside : origin.source.root.Inside child.element
  places : child.places.Stem origin child.element

theorem makes_innerType {child : Child} (h : child.Stems origin) (owner : Option String) :
    Makes origin model
      (fun later type => ∃ id, type = .inline id ∧ later.Owns origin.targetSpace owner ⟨.type, id⟩)
      (innerType owner child) :=
  (h.places.asType model owner).map fun _ id hdeclares => ⟨id, rfl, hdeclares.1⟩

theorem carries {element : Element} (hinside : origin.source.root.Inside element)
    {key : String} {kind : SymbolKind} {name : QName}
    (hnames : ∀ written, element.attribute? key = some written → element.Names kind written)
    (h : ∃ written, element.attribute? key = some written ∧
      element.bindings.resolve written = .ok name) :
    origin.source.root.Carries ⟨kind, name⟩ := by
  obtain ⟨written, hwritten, hname⟩ := h
  exact ⟨element, written, hinside, hnames written hwritten, hname⟩

section

variable {element : Element} {children : List Child}
  (hinside : origin.source.root.Inside element)
  (h : ∀ child ∈ children, child.Stems origin)

include hinside

theorem makes_groupUse (flaw : Flaw) (kind : SymbolKind) : Makes origin model
    (fun later use => later = model ∧ use.span.document = origin.document ∧
      origin.source.root.Carries ⟨kind, use.name⟩)
    (groupUse element flaw) := by
  apply (makes_qualified? element "ref").bind
  rintro later target _ ⟨rfl, htarget⟩
  apply (makes_expect element flaw target).bind
  rintro later name _ ⟨rfl, rfl⟩
  apply (makes_spanOf element).map
  rintro later span ⟨rfl, hspan⟩
  exact ⟨rfl, hspan, carries hinside (fun _ => .reference kind) (htarget name rfl)⟩

theorem stems_named {name : String} (hname : element.attribute? "name" = some name)
    (kind : SymbolKind) {type : Option TypeRef}
    (hcarried : ∀ reference ∈ type.toList.flatMap TypeRef.references,
      origin.source.root.Carries reference) :
    (Declaration.named name type).Stems origin kind ∧
      ∀ other found, Declaration.named name type = .named other found →
        element.attribute? "name" = some other := by
  have htitled : ∀ other found, Declaration.named name type = .named other found →
      element.attribute? "name" = some other := by
    rintro other found ⟨⟩
    exact hname
  exact ⟨⟨fun other found heq => ⟨element, hinside, htitled other found heq⟩, hcarried⟩, htitled⟩

include h

theorem makes_declaration (kind : SymbolKind) (scope : Option String) : Makes origin model
    (fun later declaration => declaration.OwnedIn later origin.targetSpace scope ∧
      declaration.Stems origin kind ∧ ∀ name type, declaration = .named name type →
        element.attribute? "name" = some name)
    (declaration element children scope) := by
  apply (makes_qualified? element "ref").bind
  rintro later target _ ⟨rfl, htarget⟩
  cases target with
  | some target =>
      have hcarries := carries hinside (fun _ => .reference kind) (htarget target rfl)
      apply makes_pure
      refine ⟨fun _ _ heq => (nomatch heq), ⟨fun _ _ heq => (nomatch heq), ?_⟩,
        fun _ _ heq => (nomatch heq)⟩
      intro reference hreference
      cases List.mem_singleton.mp hreference
      exact hcarries
  | none =>
      apply (makes_expect element _ _).bind
      rintro later name _ ⟨rfl, hname⟩
      apply (makes_qualified? element "type").bind
      rintro later type _ ⟨rfl, htype⟩
      cases type with
      | some type =>
          have hcarries := carries hinside (fun _ => .type (by simp)) (htype type rfl)
          apply makes_pure
          refine ⟨fun _ _ heq => (nomatch heq), stems_named hinside hname kind ?_⟩
          intro reference hreference
          cases List.mem_singleton.mp hreference
          exact hcarries
      | none =>
          cases hfound : children.find? (Child.hasTag typeTags) with
          | none => exact makes_pure ⟨fun _ _ heq => (nomatch heq),
              stems_named hinside hname kind fun _ hmem => nomatch hmem⟩
          | some child =>
              have hchild := h child (List.mem_of_find?_eq_some hfound)
              apply (makes_innerType hchild _).map
              rintro later type ⟨id, rfl, howned⟩
              refine ⟨?_, stems_named hinside hname kind fun _ hmem => nomatch hmem⟩
              rintro other found ⟨⟩
              exact howned

theorem makes_elementDecl (scope : Option String) :
    Makes origin model (Declares origin element scope) (elementDecl element children scope) := by
  apply (makes_declaration hinside h .element scope).bind
  rintro later declared _ ⟨howned, hstems, htitled⟩
  have hadded : ∀ occurs, Makes origin later (Declares origin element scope)
      (do addElement ⟨declared, occurs, (← read).targetSpace, element.documentation,
        ← spanOf element⟩) := by
    intro occurs
    apply makes_placed element
    intro span hspan
    apply (@makes_push _ _ .element _ _ rfl ⟨hstems, hspan⟩).imp
    rintro later id ⟨hgrows, hid⟩
    exact ⟨⟨_, hid, howned.mono hgrows⟩, _, hid, htitled⟩
  cases scope.isNone with
  | true => exact hadded Occurs.once
  | false =>
      apply (makes_occursOf element).bind
      rintro _ occurs _ rfl
      exact hadded occurs

theorem makes_attributeDecl (scope : Option String) :
    Makes origin model (Declares origin element scope)
      (attributeDecl element children scope) := by
  apply (makes_declaration hinside h .attribute scope).bind
  rintro later declared _ ⟨howned, hstems, htitled⟩
  apply (makes_useOf element).bind
  rintro _ use _ rfl
  apply makes_placed element
  intro span hspan
  apply (@makes_push _ _ .attribute _ _ rfl ⟨hstems, hspan⟩).imp
  rintro later id ⟨hgrows, hid⟩
  exact ⟨⟨_, hid, howned.mono hgrows⟩, _, hid, htitled⟩

end

theorem makes_attributeItem? {child : Child} (h : child.Stems origin) (scope : Option String) :
    Makes origin model
      (fun later item? => ∀ item ∈ item?.toList,
        Sound origin later scope item.mentions item.references)
      (attributeItem? scope child) := by
  unfold attributeItem?
  split
  · apply (h.places.asAttribute model scope).map
    intro later id hdeclares item hitem
    cases List.mem_singleton.mp hitem
    exact .owns hdeclares.1
  · apply (makes_groupUse h.inside _ .attributeGroup).map
    rintro later use ⟨rfl, hspan, hcarries⟩ item hitem
    cases List.mem_singleton.mp hitem
    exact (Sound.span hspan).append (.reference hcarries)
  · exact makes_pure fun _ hmem => nomatch hmem

theorem makes_groupParticle {element : Element} (hinside : origin.source.root.Inside element)
    (scope : Option String) : Makes origin model
    (fun later particle => Sound origin later scope particle.mentions particle.references)
    (groupParticle element) := by
  apply (makes_qualified? element "ref").bind
  rintro later target _ ⟨rfl, htarget⟩
  apply (makes_expect element _ target).bind
  rintro later name _ ⟨rfl, rfl⟩
  apply (makes_occursOf element).bind
  rintro _ occurs _ rfl
  apply (makes_spanOf element).map
  rintro later span ⟨rfl, hspan⟩
  have hcarries := carries hinside (fun _ => .reference .group) (htarget name rfl)
  exact (Sound.span hspan).append (.reference hcarries)

theorem makes_groupLike? {child : Child} (h : child.Stems origin) (scope : Option String) :
    Makes origin model
      (fun later particle? => ∀ particle ∈ particle?.toList,
        Sound origin later scope particle.mentions particle.references)
      (groupLike? scope child) := by
  unfold groupLike?
  split
  · apply (h.places.asModelGroup model _ scope).map
    intro later particle hsound found hfound
    cases List.mem_singleton.mp hfound
    exact hsound
  · split
    · apply (makes_groupParticle h.inside scope).map
      intro later particle hsound found hfound
      cases List.mem_singleton.mp hfound
      exact hsound
    · exact makes_pure fun _ hmem => nomatch hmem

theorem makes_particle? {child : Child} (h : child.Stems origin) (scope : Option String) :
    Makes origin model
      (fun later particle? => ∀ particle ∈ particle?.toList,
        Sound origin later scope particle.mentions particle.references)
      (particle? scope child) := by
  unfold particle?
  split
  · apply (h.places.asElement model scope).map
    intro later id hdeclares particle hparticle
    cases List.mem_singleton.mp hparticle
    exact .owns hdeclares.1
  · exact makes_groupLike? h scope

section

variable (element : Element) {children : List Child}
  (h : ∀ child ∈ children, child.Stems origin)

include h

theorem makes_attributeItems (scope : Option String) : Makes origin model
    (fun later items => Sound origin later scope (.all AttributeItem.mentions items)
      (items.flatMap AttributeItem.references))
    (attributeItems children scope) := by
  have hitems : Makes origin model
      (fun later items => ∀ item? ∈ items, ∀ item ∈ item?.toList,
        Sound origin later scope item.mentions item.references)
      (children.mapM (attributeItem? scope)) :=
    makes_mapM (fun hsound hgrows item hitem => (hsound item hitem).mono hgrows)
      fun later child hchild => makes_attributeItem? (h child hchild) scope
  apply hitems.map
  intro later items hsound
  apply Sound.all
  intro item hitem
  obtain ⟨item?, hmem, heq⟩ := List.mem_filterMap.mp hitem
  exact hsound item? hmem item (Option.mem_toList.mpr heq)

theorem makes_modelGroup (type : ModelType) (scope : Option String) : Makes origin model
    (fun later particle => Sound origin later scope particle.mentions particle.references)
    (modelGroup element children type scope) := by
  apply (makes_occursOf element).bind
  rintro later occurs _ rfl
  have hparticles : Makes origin later
      (fun last particles => ∀ particle? ∈ particles, ∀ particle ∈ particle?.toList,
        Sound origin last scope particle.mentions particle.references)
      (children.mapM (particle? scope)) :=
    makes_mapM (fun hsound hgrows particle hparticle => (hsound particle hparticle).mono hgrows)
      fun last child hchild => makes_particle? (h child hchild) scope
  apply hparticles.map
  intro last particles hsound
  apply Sound.particles
  intro particle hparticle
  obtain ⟨particle?, hmem, heq⟩ := List.mem_filterMap.mp hparticle
  exact hsound particle? hmem particle (Option.mem_toList.mpr heq)

theorem makes_firstModelGroup (scope : Option String) : Makes origin model
    (fun later particle? => Sound origin later scope (.all Particle.mentions particle?.toList)
      (particle?.toList.flatMap Particle.references))
    (firstModelGroup children scope) := by
  unfold firstModelGroup
  split
  · exact makes_pure .nil
  · rename_i child type hfound
    obtain ⟨found, hmem, hkey⟩ := List.exists_of_findSome?_eq_some hfound
    obtain ⟨_, _, heq⟩ := Option.map_eq_some_iff.mp hkey
    cases heq
    apply ((h _ hmem).places.asModelGroup model type scope).map
    intro later particle hsound
    apply Sound.all
    intro other hother
    cases List.mem_singleton.mp hother
    exact hsound

theorem makes_container (scope : Option String) : Makes origin model
    (fun later container => Sound origin later scope container.mentions container.references)
    (container element children scope) := by
  apply (makes_attributeItems h scope).bind
  intro later items _ hitems
  have hgroup : Makes origin later
      (fun last found => ∀ particle ∈ found.toList,
        Sound origin last scope particle.mentions particle.references)
      (children.foldlM (singleGroup element scope) none) := by
    apply makes_foldlM
    case hstart => exact fun _ hmem => nomatch hmem
    case hstep =>
        intro middle found child hchild hfound
        apply (makes_groupLike? (h child hchild) scope).bind
        intro last group hgrows hgroup
        cases group with
        | none => exact makes_pure fun particle hmem => (hfound particle hmem).mono hgrows
        | some particle =>
            simp only
            split
            · exact makes_malformed_bind element _ _
            · exact makes_pure hgroup
  apply hgroup.bind
  intro last particle? hgrows hparticle
  exact makes_pure ((hitems.mono hgrows).append (.all hparticle))

theorem makes_givenType (hinside : origin.source.root.Inside element) (owner : Option String)
    (key : String) (hnames : ∀ written, element.attribute? key = some written →
      element.Names .type written) (flaw : Flaw) (body : TypeRef → SimpleDerivation)
    (hbody : ∀ later type, Sound origin later owner type.mentions type.references →
      (body type).HasMember ∧
        Sound origin later owner (body type).mentions (body type).references) :
    Makes origin model
      (fun later derivation => derivation.HasMember ∧
        Sound origin later owner derivation.mentions derivation.references)
      (do match ← qualified? element key with
          | some name => return body (.named name)
          | none =>
            let child ← expect element flaw (children.find? (Child.hasTag ["simpleType"]))
            return body (← innerType owner child)) := by
  apply (makes_qualified? element key).bind
  rintro later name _ ⟨rfl, hname⟩
  cases name with
  | some name => exact makes_pure (hbody _ _ (.reference (carries hinside hnames (hname name rfl))))
  | none =>
      apply (makes_expect element _ _).bind
      rintro later child _ ⟨rfl, hfound⟩
      apply (makes_innerType (h child (List.mem_of_find?_eq_some hfound)) owner).map
      rintro later type ⟨id, rfl, howned⟩
      exact hbody _ _ (.owns howned)

theorem makes_restrictionBody (hinside : origin.source.root.Inside element)
    (owner : Option String) : Makes origin model
    (fun later derivation => derivation.HasMember ∧
      Sound origin later owner derivation.mentions derivation.references)
    (restrictionBody element children owner) :=
  makes_givenType element h hinside owner "base" (fun _ => .type (by simp))
    .restrictionWithoutBase (.restriction · (facetsOf element)) fun _ _ hsound => ⟨trivial, hsound⟩

theorem makes_listBody (hinside : origin.source.root.Inside element) (owner : Option String) :
    Makes origin model
      (fun later derivation => derivation.HasMember ∧
        Sound origin later owner derivation.mentions derivation.references)
      (listBody element children owner) :=
  makes_givenType element h hinside owner "itemType" (fun _ => .type (by simp))
    .listWithoutItem .list fun _ _ hsound => ⟨trivial, hsound⟩

omit h in
theorem names_of_words {written : String}
    (h : written ∈ Text.words ((element.attribute? "memberTypes").getD "")) :
    element.Names .type written := by
  cases hall : element.attribute? "memberTypes" with
  | none =>
      rw [hall] at h
      cases h
  | some all =>
      rw [hall] at h
      exact .member hall h

theorem makes_unionBody (hinside : origin.source.root.Inside element) (owner : Option String) :
    Makes origin model
      (fun later derivation => derivation.HasMember ∧
        Sound origin later owner derivation.mentions derivation.references)
      (unionBody element children owner) := by
  have hnames : Makes origin model
      (fun _ names => ∀ name ∈ names, origin.source.root.Carries ⟨.type, name⟩)
      ((Text.words ((element.attribute? "memberTypes").getD "")).mapM (qualified element)) := by
    apply makes_mapM
    case hmono => exact fun hcarries _ => hcarries
    case hwork =>
        intro later written hwritten
        apply (makes_qualified element written).imp
        rintro last name ⟨rfl, hname⟩
        exact ⟨element, written, hinside, names_of_words element hwritten, hname⟩
  apply hnames.bind
  intro later names _ hnames
  have hinner : Makes origin later
      (fun last types => ∀ type ∈ types, Sound origin last owner type.mentions type.references)
      ((children.filter (Child.hasTag ["simpleType"])).mapM (innerType owner)) := by
    apply makes_mapM
    case hmono => exact fun hsound hgrows => hsound.mono hgrows
    case hwork =>
        intro last child hchild
        apply (makes_innerType (h child (List.mem_of_mem_filter hchild)) owner).imp
        rintro final type ⟨id, rfl, howned⟩
        exact .owns howned
  apply hinner.bind
  intro last inner _ hinner
  have hmembers : ∀ type ∈ names.map TypeRef.named ++ inner,
      Sound origin last owner type.mentions type.references := by
    intro type htype
    rcases List.mem_append.mp htype with hmem | hmem
    · obtain ⟨name, hname, rfl⟩ := List.mem_map.mp hmem
      exact .reference (hnames name hname)
    · exact hinner type hmem
  simp only
  split
  case isTrue => exact makes_malformed_bind element _ _
  case isFalse hsome =>
      apply makes_pure
      refine ⟨?_, .all hmembers⟩
      intro hnil
      obtain ⟨hnone, hnothing⟩ := List.append_eq_nil_iff.mp hnil
      rw [List.map_eq_nil_iff] at hnone
      rw [hnone, hnothing] at hsome
      exact hsome rfl

theorem makes_simpleBody (hinside : origin.source.root.Inside element) (owner : Option String) :
    Makes origin model
      (fun later derivation => derivation.HasMember ∧
        Sound origin later owner derivation.mentions derivation.references)
      (simpleBody element children owner) := by
  unfold simpleBody
  split
  · exact makes_restrictionBody element h hinside owner
  · exact makes_listBody element h hinside owner
  · exact makes_unionBody element h hinside owner

omit h in
/-- What is written inside a type is owned by the type's owner, or else by its name. -/
theorem makes_type {owner : Option String} {body : TypeBody}
    (hbody : Sound origin model (innerOwner element owner) body.mentions body.references)
    (hmember : ∀ derivation, body = .simple derivation → derivation.HasMember) :
    Makes origin model (Declares origin element owner)
      (do addType (← typeDef element owner body)) := by
  apply (makes_typeDef element owner body).bind
  rintro later type _ ⟨rfl, howner, hname, rfl, hspace, hspan⟩
  have hstems : @Component.Stems origin later .type type := by
    refine ⟨hmember, hspace, ?_⟩
    rw [howner, hname]
    exact hbody.spanned hspan
  apply (@makes_push _ _ .type _ _ rfl hstems).imp
  rintro last id ⟨_, hid⟩
  exact ⟨⟨type, hid, howner, hspace⟩, type, hid, hname⟩

theorem makes_simpleType (owner : Option String) :
    Makes origin model (Declares origin element owner) (simpleType element children owner) := by
  apply (makes_expect element _ _).bind
  rintro later child _ ⟨rfl, hfound⟩
  have hchild := h child (List.mem_of_find?_eq_some hfound)
  apply (hchild.places.asSimpleBody later _).bind
  rintro last derivation _ ⟨hmember, hsound⟩
  apply makes_type element hsound
  rintro other ⟨⟩
  exact hmember

theorem makes_simpleRestriction (owner : Option String) : Makes origin model
    (fun later found => ∀ id ∈ found.1.toList, later.Owns origin.targetSpace owner ⟨.type, id⟩)
    (simpleRestriction element children owner) := by
  unfold simpleRestriction
  split
  · exact makes_pure fun _ hmem => nomatch hmem
  · rename_i child hfound
    apply ((h child (List.mem_of_find?_eq_some hfound)).places.asType model owner).map
    intro later id hdeclares other hother
    cases List.mem_singleton.mp hother
    exact hdeclares.1

theorem makes_derivation (hinside : origin.source.root.Inside element)
    (method : DerivationMethod) (content : String) (owner : Option String) : Makes origin model
    (fun later derivation => Sound origin later owner derivation.mentions derivation.references)
    (derivation element children method content owner) := by
  apply (makes_qualified? element "base").bind
  rintro later name _ ⟨rfl, hname⟩
  apply (makes_expect element _ _).bind
  rintro later base _ ⟨rfl, rfl⟩
  have hbase := carries hinside (fun _ => .type (by simp)) (hname base rfl)
  have hrest : ∀ (last : Model) (found : Option TypeId × Facets),
      (∀ id ∈ found.1.toList, last.Owns origin.targetSpace owner ⟨.type, id⟩) → Makes origin last
        (fun later derivation =>
          Sound origin later owner derivation.mentions derivation.references)
        (do return (⟨method, base, ← container element children owner, found.1, found.2,
          ← spanOf element⟩ : Derivation)) := by
    intro last found howned
    apply (makes_container element h owner).bind
    intro final container hgrows hsound
    apply (makes_spanOf element).map
    rintro later span ⟨rfl, hspan⟩
    have hids : Sound origin later owner _ [] := .ids fun id hid => (howned id hid).mono hgrows
    have hparts := hsound.append (hids.append (.span hspan))
    refine { hparts with carried := ?_ }
    intro reference hreference
    rcases List.mem_cons.mp hreference with rfl | hmem
    · exact hbase
    · exact hsound.carried reference hmem
  by_cases hsimple : content = "simpleContent" ∧ method = .restriction
  · simp only [if_pos hsimple]
    apply (makes_simpleRestriction element h owner).bind
    intro last found _ howned
    exact hrest last found howned
  · simp only [if_neg hsimple]
    exact hrest later (none, {}) fun _ hmem => nomatch hmem

theorem makes_content (owner : Option String) : Makes origin model
    (fun later derivation => Sound origin later owner derivation.mentions derivation.references)
    (content element children owner) := by
  apply (makes_expect element _ _).bind
  rintro later ⟨child, method⟩ _ ⟨rfl, hfound⟩
  obtain ⟨found, hmem, hkey⟩ := List.exists_of_findSome?_eq_some hfound
  obtain ⟨_, _, heq⟩ := Option.map_eq_some_iff.mp hkey
  cases heq
  exact (h _ hmem).places.asDerivation later method element.tag owner

theorem makes_complexContent (owner : Option String) : Makes origin model
    (fun later content => ∀ mixed, Sound origin later owner
      (TypeBody.complex content mixed).mentions (TypeBody.complex content mixed).references)
    (complexContent element children owner) := by
  unfold complexContent
  cases hsimple : children.find? (Child.hasTag ["simpleContent"]) with
  | some child =>
      have hchild := h child (List.mem_of_find?_eq_some hsimple)
      exact (hchild.places.asContent model owner).map fun _ _ hsound _ => hsound
  | none =>
      cases hcomplex : children.find? (Child.hasTag ["complexContent"]) with
      | some child =>
          have hchild := h child (List.mem_of_find?_eq_some hcomplex)
          exact (hchild.places.asContent model owner).map fun _ _ hsound _ => hsound
      | none =>
          apply makes_read.bind
          rintro later found _ ⟨rfl, rfl⟩
          have hdirect : Makes found later
              (fun last content => ∀ mixed, Sound found last owner
                (TypeBody.complex content mixed).mentions
                (TypeBody.complex content mixed).references)
              (do return ComplexContent.direct (← container element children owner)) :=
            (makes_container element h owner).map fun _ _ hsound _ => hsound
          simp only
          split
          · exact makes_malformed_bind element _ _
          · exact hdirect

theorem makes_complexType (owner : Option String) :
    Makes origin model (Declares origin element owner) (complexType element children owner) := by
  apply (makes_complexContent element h _).bind
  intro later content _ hsound
  apply makes_type element (hsound _)
  rintro derivation ⟨⟩

/-! The whole tree. -/

theorem stem_placesOf (hinside : origin.source.root.Inside element) :
    (placesOf element children).Stem origin element where
  asType model owner := by
    simp only [placesOf]
    split
    · exact makes_simpleType element h owner
    · exact makes_complexType element h owner
  asElement _ := makes_elementDecl hinside h
  asAttribute _ := makes_attributeDecl hinside h
  asModelGroup _ := makes_modelGroup element h
  asGroup _ := makes_firstModelGroup h
  asAttributes _ := makes_attributeItems h
  asSimpleBody _ := makes_simpleBody element h hinside
  asContent _ := makes_content element h
  asDerivation _ := makes_derivation element h hinside

end

theorem stems_of (element : Element) (hinside : origin.source.root.Inside element) :
    (Child.of element).Stems origin := by
  refine ⟨hinside, ?_⟩
  change (places element).Stem origin element
  rw [places_eq]
  apply stem_placesOf element _ hinside
  intro child hchild
  obtain ⟨part, hpart, rfl⟩ := List.mem_map.mp hchild
  have hlt := Element.sizeOf_lt_of_parts hpart
  exact stems_of part (.child hinside (Element.mem_children_of_parts hpart))
termination_by sizeOf element

/-! What a child of a root declares. -/

theorem makes_attributeGroup {child : Child} (h : child.Stems origin) (name : String) :
    Makes origin model
      (fun later id => later.Owns origin.targetSpace none ⟨.attributeGroup, id⟩ ∧
        later.Titles (some name) ⟨.attributeGroup, id⟩)
      (Schema.attributeGroup child name) := by
  apply makes_read.bind
  rintro later found _ ⟨rfl, rfl⟩
  apply (h.places.asAttributes later (some name)).bind
  intro last items _ hitems
  apply (makes_spanOf child.element).bind
  rintro final span _ ⟨rfl, hspan⟩
  have hstems : @Component.Stems found final .attributeGroup
      ⟨name, found.targetSpace, items, span⟩ := ⟨rfl, hitems.spanned hspan⟩
  apply (@makes_push _ _ .attributeGroup _ _ rfl hstems).imp
  rintro _ _ ⟨_, hid⟩
  exact ⟨⟨rfl, _, hid, rfl⟩, _, hid, rfl⟩

theorem makes_group {child : Child} (h : child.Stems origin) (name : String) :
    Makes origin model
      (fun later id => later.Owns origin.targetSpace none ⟨.group, id⟩ ∧
        later.Titles (some name) ⟨.group, id⟩)
      (Schema.group child name) := by
  apply makes_read.bind
  rintro later found _ ⟨rfl, rfl⟩
  apply (h.places.asGroup later (some name)).bind
  intro last particle _ hparticle
  apply (makes_spanOf child.element).bind
  rintro final span _ ⟨rfl, hspan⟩
  have hstems : @Component.Stems found final .group
      ⟨name, found.targetSpace, particle, span⟩ := ⟨rfl, hparticle.spanned hspan⟩
  apply (@makes_push _ _ .group _ _ rfl hstems).imp
  rintro _ _ ⟨_, hid⟩
  exact ⟨⟨rfl, _, hid, rfl⟩, _, hid, rfl⟩

theorem makes_component {child : Child} (h : child.Stems origin) {name : String}
    (hname : child.element.attribute? "name" = some name) (kind : SymbolKind) :
    Makes origin model
      (fun later id => later.Owns origin.targetSpace none ⟨kind, id⟩ ∧
        later.Titles (some name) ⟨kind, id⟩)
      (child.component name kind) := by
  cases kind with
  | element => exact hname ▸ h.places.asElement model none
  | «attribute» => exact hname ▸ h.places.asAttribute model none
  | type => exact hname ▸ h.places.asType model none
  | attributeGroup => exact makes_attributeGroup h name
  | group => exact makes_group h name

theorem makes_declared {child : Child} (h : child.Stems origin) : Makes origin model
    (fun later named => ∀ name symbol, named = some (name, symbol) →
      later.Owns origin.targetSpace none symbol ∧ later.Titles (some name) symbol)
    child.declared := by
  unfold Child.declared
  split
  · apply (makes_required child.element "name").bind
    rintro later name _ ⟨rfl, hname⟩
    apply (makes_component h hname _).map
    rintro last id hdeclared other symbol ⟨⟩
    exact hdeclared
  · split
    · apply (makes_required child.element "schemaLocation").bind
      rintro later _ _ ⟨rfl, _⟩
      exact makes_pure fun _ _ heq => nomatch heq
    · exact makes_pure fun _ _ heq => nomatch heq

end Reading

namespace Part

variable {part : Part} {origin : Origin} {element : Xml.Element}

theorem makes (hchild : part.child = .of element) (hinside : origin.source.root.Inside element)
    (hread : part.child.declared origin part.before = .ok (part.named, part.after)) :
    Reading.Gained origin part.before part.after ∧
      ∀ name symbol, part.named = some (name, symbol) →
        part.after.Owns origin.targetSpace none symbol ∧
          part.after.Titles (some name) symbol := by
  have hstems : part.child.Stems origin := hchild ▸ Reading.stems_of element hinside
  exact Reading.makes_declared hstems part.named part.after hread

theorem ordinary_of_children {root : Xml.Element} {parts : List Part}
    (h : parts.map Part.child = Reading.schemaParts root.children) :
    ∀ part ∈ parts, ∃ element, part.child = .of element ∧ root.Inside element := by
  intro part hpart
  have hchild : part.child ∈ parts.map Part.child := List.mem_map_of_mem hpart
  rw [h] at hchild
  obtain ⟨element, helement, heq⟩ := Reading.exists_of_mem_schemaParts hchild
  exact ⟨element, heq, .child .self helement⟩

theorem Chain.makes {parts : List Part} {position : Nat} {first last : Model}
    (h : Chain origin position first parts last)
    (hordinary : ∀ part ∈ parts, ∃ element, part.child = .of element ∧
      origin.source.root.Inside element) :
    Reading.Gained origin first last ∧
      ∀ part ∈ parts, ∀ name symbol, part.named = some (name, symbol) →
        last.Owns origin.targetSpace none symbol ∧ last.Titles (some name) symbol := by
  induction h with
  | nil position model => exact ⟨Reading.gained_refl origin model, fun _ hmem => nomatch hmem⟩
  | cons hread _ ih =>
      obtain ⟨element, hchild, hinside⟩ := hordinary _ List.mem_cons_self
      have hpart := Part.makes hchild hinside hread
      obtain ⟨hrest, hnamed⟩ := ih fun part hmem => hordinary part (List.mem_cons_of_mem _ hmem)
      refine ⟨hpart.1.trans hrest, ?_⟩
      intro part hmem name symbol heq
      rcases List.mem_cons.mp hmem with rfl | hmem
      · obtain ⟨howns, htitles⟩ := hpart.2 name symbol heq
        exact ⟨howns.mono hrest.1, htitles.mono hrest.1⟩
      · exact hnamed part hmem name symbol heq

end Part

namespace Schema

/-- Reading a document adds what stems from it, and what the document registers is owned by
nothing. -/
theorem makes_read {document : Xml.Document} {id : DocumentId} {label : String}
    {permissive : Bool} {model next : Model} {schema : Schema}
    (h : read document id label permissive model = .ok (schema, next)) :
    Reading.Gained ⟨id, document, targetSpaceOf document.root, permissive⟩ model next ∧
      ∀ (kind : SymbolKind) (name : String) (top : Id kind),
        schema.symbols.get? kind name = some top →
          next.Owns (targetSpaceOf document.root) none ⟨kind, top⟩ ∧
            next.Titles (some name) ⟨kind, top⟩ := by
  obtain ⟨_, parts, hchain, hchildren, hentered⟩ := read_eq_ok_iff.mp h
  obtain ⟨hgained, hnamed⟩ := hchain.makes (Part.ordinary_of_children hchildren)
  refine ⟨hgained, ?_⟩
  intro kind name top hget
  have hparts : (parts.findSome? fun part => part.symbol? kind name) = some top := by
    rw [get?_enterAll hentered] at hget
    exact hget
  obtain ⟨part, hpart, hsymbol⟩ := List.exists_of_findSome?_eq_some hparts
  obtain ⟨⟨other, symbol⟩, hname, hkind⟩ := Option.bind_eq_some_iff.mp hsymbol
  split at hkind
  case isTrue heq =>
      obtain ⟨rfl, rfl⟩ := heq
      cases hkind
      exact hnamed part hpart other symbol hname
  case isFalse => cases hkind

end Schema

end SchemaBinding
