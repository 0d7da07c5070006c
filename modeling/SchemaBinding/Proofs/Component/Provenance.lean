import SchemaBinding.Proofs.Component.Extent
import SchemaBinding.Proofs.Component.Registration

namespace SchemaBinding

/-- A name that a component refers to another one by. -/
structure Reference where
  kind : SymbolKind
  name : QName
  deriving DecidableEq, Repr

def TypeRef.references : TypeRef → List Reference
  | .named name => [⟨.type, name⟩]
  | .inline _ => []

def AttributeItem.references : AttributeItem → List Reference
  | .attribute _ => []
  | .group use => [⟨.attributeGroup, use.name⟩]

mutual

def Particle.references : Particle → List Reference
  | .element _ => []
  | .model _ _ particles => Particle.referencesAll particles
  | .group use _ => [⟨.group, use.name⟩]

def Particle.referencesAll : List Particle → List Reference
  | [] => []
  | particle :: rest => particle.references ++ Particle.referencesAll rest

end

def Container.references (container : Container) : List Reference :=
  container.attributes.flatMap AttributeItem.references ++
    container.particle.toList.flatMap Particle.references

def SimpleDerivation.references : SimpleDerivation → List Reference
  | .restriction base _ => base.references
  | .list item => item.references
  | .union members => members.flatMap TypeRef.references

def Derivation.references (derivation : Derivation) : List Reference :=
  ⟨.type, derivation.base⟩ :: derivation.container.references

def TypeBody.references : TypeBody → List Reference
  | .simple derivation => derivation.references
  | .complex (.direct container) _ => container.references
  | .complex (.simple derivation) _ => derivation.references
  | .complex (.complex derivation) _ => derivation.references

def Declaration.references (kind : SymbolKind) : Declaration → List Reference
  | .named _ type => type.toList.flatMap TypeRef.references
  | .reference target => [⟨kind, target⟩]

def Component.references : {kind : SymbolKind} → Component kind → List Reference
  | .element, element => ElementDecl.declaration element |>.references .element
  | .attribute, declared => AttributeDecl.declaration declared |>.references .attribute
  | .type, type => TypeDef.body type |>.references
  | .attributeGroup, group =>
      AttributeGroupDef.attributes group |>.flatMap AttributeItem.references
  | .group, group => GroupDef.particle group |>.toList.flatMap Particle.references

namespace Xml.Element

/-- The elements of a tree. -/
inductive Inside (root : Element) : Element → Prop
  | self : Inside root root
  | child {element child : Element} : Inside root element → child ∈ element.children →
      Inside root child

/-- An element has a text where the name of a component of some kind stands. -/
inductive Names (element : Element) : SymbolKind → String → Prop
  | type {key written : String} : key ∈ ["type", "base", "itemType"] →
      element.attribute? key = some written → Names element .type written
  | reference {written : String} (kind : SymbolKind) : element.attribute? "ref" = some written →
      Names element kind written
  | member {all written : String} : element.attribute? "memberTypes" = some all →
      written ∈ Text.words all → Names element .type written

/-- A reference is what is written in an element, under the bindings of that element. -/
def Carries (root : Element) (reference : Reference) : Prop :=
  ∃ element written, root.Inside element ∧ element.Names reference.kind written ∧
    element.bindings.resolve written = .ok reference.name

def Calls (root : Element) (name : String) : Prop :=
  ∃ element, root.Inside element ∧ element.attribute? "name" = some name

end Xml.Element

def SimpleDerivation.HasMember : SimpleDerivation → Prop
  | .union members => members ≠ []
  | _ => True

def TypeDef.HasMember (type : TypeDef) : Prop :=
  ∀ derivation, type.body = .simple derivation → derivation.HasMember

def ownerIn (scope : Option String) (name : String) : String :=
  (scope.map fun scope => scope ++ "_" ++ name).getD name

/-- The type inside the declaration is owned by its name, and the name by what is around it. -/
def Declaration.OwnedIn (model : Model) (space scope : Option String) (declaration : Declaration) :
    Prop :=
  ∀ name id, declaration = .named name (some (.inline id)) →
    ∃ type, model.type? id = some type ∧ type.owner = some (ownerIn scope name) ∧
      type.space = space

/-- A type, or the type inside a declaration, is owned by what is around it, and belongs to a
namespace. Around a group is nothing. -/
def Model.Owns (model : Model) (space scope : Option String) : Symbol → Prop
  | ⟨.type, id⟩ => ∃ type, model.type? id = some type ∧ type.owner = scope ∧ type.space = space
  | ⟨.element, id⟩ => ∃ element, model.element? id = some element ∧
      element.declaration.OwnedIn model space scope
  | ⟨.attribute, id⟩ => ∃ declared, model.attribute? id = some declared ∧
      declared.declaration.OwnedIn model space scope
  | ⟨.attributeGroup, id⟩ => scope = none ∧ ∃ group, model.attributeGroup? id = some group ∧
      group.space = space
  | ⟨.group, id⟩ => scope = none ∧ ∃ group, model.group? id = some group ∧ group.space = space

def Model.Titles (model : Model) (title : Option String) : Symbol → Prop
  | ⟨.type, id⟩ => ∃ type, model.type? id = some type ∧ type.name = title
  | ⟨.element, id⟩ => ∃ element, model.element? id = some element ∧
      ∀ name type, element.declaration = .named name type → title = some name
  | ⟨.attribute, id⟩ => ∃ declared, model.attribute? id = some declared ∧
      ∀ name type, declared.declaration = .named name type → title = some name
  | ⟨.attributeGroup, id⟩ => ∃ group, model.attributeGroup? id = some group ∧
      title = some group.name
  | ⟨.group, id⟩ => ∃ group, model.group? id = some group ∧ title = some group.name

/-- What is mentioned is owned by what is around it, and what is referred to is written in the
document. -/
structure Sound (origin : Origin) (model : Model) (scope : Option String) (mentions : Mentions)
    (references : List Reference) : Prop where
  owned : ∀ symbol ∈ mentions.symbols, model.Owns origin.targetSpace scope symbol
  placed : ∀ document ∈ mentions.documents, document = origin.document
  carried : ∀ reference ∈ references, origin.source.root.Carries reference

/-- A declaration stems from a document. What is inside it is owned as well, but by what is around
it, which the declaration does not say. -/
structure Declaration.Stems (origin : Origin) (kind : SymbolKind) (declaration : Declaration) :
    Prop where
  called : ∀ name type, declaration = .named name type → origin.source.root.Calls name
  carried : ∀ reference ∈ declaration.references kind, origin.source.root.Carries reference

/-- The component stems from a document. -/
def Component.Stems (origin : Origin) (model : Model) :
    {kind : SymbolKind} → Component kind → Prop
  | .element, element => (ElementDecl.declaration element).Stems origin .element ∧
      (ElementDecl.span element).document = origin.document
  | .attribute, declared => (AttributeDecl.declaration declared).Stems origin .attribute ∧
      (AttributeDecl.span declared).document = origin.document
  | .type, type => TypeDef.HasMember type ∧ TypeDef.space type = origin.targetSpace ∧
      Sound origin model (TypeDef.owner type <|> TypeDef.name type) (TypeDef.mentions type)
        (TypeDef.body type).references
  | .attributeGroup, group => AttributeGroupDef.space group = origin.targetSpace ∧
      Sound origin model (some (AttributeGroupDef.name group)) (AttributeGroupDef.mentions group)
        (Component.references group)
  | .group, group => GroupDef.space group = origin.targetSpace ∧
      Sound origin model (some (GroupDef.name group)) (GroupDef.mentions group)
        (Component.references group)

/-! A model that grows. -/

namespace Model.Prefix

variable {first second : Model} (h : first.Prefix second)

include h

theorem type?_of_some {id : TypeId} {type : TypeDef} (htype : first.type? id = some type) :
    second.type? id = some type :=
  @component?_of_some _ _ h .type id type htype

theorem element?_of_some {id : ElementId} {element : ElementDecl}
    (helement : first.element? id = some element) : second.element? id = some element :=
  @component?_of_some _ _ h .element id element helement

theorem attribute?_of_some {id : AttributeId} {declared : AttributeDecl}
    (hdeclared : first.attribute? id = some declared) :
    second.attribute? id = some declared :=
  @component?_of_some _ _ h .attribute id declared hdeclared

theorem attributeGroup?_of_some {id : AttributeGroupId} {group : AttributeGroupDef}
    (hgroup : first.attributeGroup? id = some group) : second.attributeGroup? id = some group :=
  @component?_of_some _ _ h .attributeGroup id group hgroup

theorem group?_of_some {id : GroupId} {group : GroupDef}
    (hgroup : first.group? id = some group) : second.group? id = some group :=
  @component?_of_some _ _ h .group id group hgroup

end Model.Prefix

theorem Declaration.OwnedIn.mono {model after : Model} {space scope : Option String}
    {declaration : Declaration} (h : declaration.OwnedIn model space scope)
    (hgrows : model.Prefix after) : declaration.OwnedIn after space scope := by
  intro name id heq
  obtain ⟨type, htype, howner⟩ := h name id heq
  exact ⟨type, hgrows.type?_of_some htype, howner⟩

theorem Model.Owns.mono {model after : Model} {space scope : Option String} {symbol : Symbol}
    (h : model.Owns space scope symbol) (hgrows : model.Prefix after) :
    after.Owns space scope symbol := by
  obtain ⟨kind, id⟩ := symbol
  cases kind with
  | type =>
      obtain ⟨type, htype, howner⟩ := h
      exact ⟨type, hgrows.type?_of_some htype, howner⟩
  | element =>
      obtain ⟨element, helement, howned⟩ := h
      exact ⟨element, hgrows.element?_of_some helement, howned.mono hgrows⟩
  | «attribute» =>
      obtain ⟨declared, hdeclared, howned⟩ := h
      exact ⟨declared, hgrows.attribute?_of_some hdeclared,
        howned.mono hgrows⟩
  | attributeGroup =>
      obtain ⟨hscope, group, hgroup, hspace⟩ := h
      exact ⟨hscope, group, hgrows.attributeGroup?_of_some hgroup, hspace⟩
  | group =>
      obtain ⟨hscope, group, hgroup, hspace⟩ := h
      exact ⟨hscope, group, hgrows.group?_of_some hgroup, hspace⟩

theorem Model.Titles.mono {model after : Model} {title : Option String} {symbol : Symbol}
    (h : model.Titles title symbol) (hgrows : model.Prefix after) : after.Titles title symbol := by
  obtain ⟨kind, id⟩ := symbol
  cases kind with
  | type =>
      obtain ⟨type, htype, hname⟩ := h
      exact ⟨type, hgrows.type?_of_some htype, hname⟩
  | element =>
      obtain ⟨element, helement, hname⟩ := h
      exact ⟨element, hgrows.element?_of_some helement, hname⟩
  | «attribute» =>
      obtain ⟨declared, hdeclared, hname⟩ := h
      exact ⟨declared, hgrows.attribute?_of_some hdeclared, hname⟩
  | attributeGroup =>
      obtain ⟨group, hgroup, hname⟩ := h
      exact ⟨group, hgrows.attributeGroup?_of_some hgroup, hname⟩
  | group =>
      obtain ⟨group, hgroup, hname⟩ := h
      exact ⟨group, hgrows.group?_of_some hgroup, hname⟩

namespace Sound

variable {origin : Origin} {model after : Model} {scope : Option String}
  {mentions others : Mentions} {references more : List Reference}

theorem mono (h : Sound origin model scope mentions references) (hgrows : model.Prefix after) :
    Sound origin after scope mentions references :=
  { h with owned := fun symbol hsymbol => (h.owned symbol hsymbol).mono hgrows }

theorem nil : Sound origin model scope {} [] where
  owned _ h := nomatch h
  placed _ h := nomatch h
  carried _ h := nomatch h

theorem append (h : Sound origin model scope mentions references)
    (h' : Sound origin model scope others more) :
    Sound origin model scope (mentions ++ others) (references ++ more) where
  owned symbol hsymbol := (List.mem_append.mp hsymbol).elim (h.owned symbol) (h'.owned symbol)
  placed document hdocument :=
    (List.mem_append.mp hdocument).elim (h.placed document) (h'.placed document)
  carried reference hreference :=
    (List.mem_append.mp hreference).elim (h.carried reference) (h'.carried reference)

theorem all {α : Type} {mentions : α → Mentions} {references : α → List Reference}
    {items : List α}
    (h : ∀ item ∈ items, Sound origin model scope (mentions item) (references item)) :
    Sound origin model scope (.all mentions items) (items.flatMap references) where
  owned symbol hsymbol := by
    obtain ⟨item, hitem, hmem⟩ := List.mem_flatMap.mp hsymbol
    exact (h item hitem).owned symbol hmem
  placed document hdocument := by
    obtain ⟨item, hitem, hmem⟩ := List.mem_flatMap.mp hdocument
    exact (h item hitem).placed document hmem
  carried reference hreference := by
    obtain ⟨item, hitem, hmem⟩ := List.mem_flatMap.mp hreference
    exact (h item hitem).carried reference hmem

theorem particles {particles : List Particle}
    (h : ∀ particle ∈ particles,
      Sound origin model scope particle.mentions particle.references) :
    Sound origin model scope (Particle.mentionsAll particles)
      (Particle.referencesAll particles) := by
  induction particles with
  | nil => exact nil
  | cons particle rest ih =>
      exact (h particle List.mem_cons_self).append
        (ih fun other hother => h other (List.mem_cons_of_mem _ hother))

theorem owns {kind : SymbolKind} {id : Id kind}
    (h : model.Owns origin.targetSpace scope ⟨kind, id⟩) :
    Sound origin model scope (.ofId id) [] where
  owned := by
    intro symbol hsymbol
    cases List.mem_singleton.mp hsymbol
    exact h
  placed _ h := nomatch h
  carried _ h := nomatch h

theorem ids {kind : SymbolKind} {ids : List (Id kind)}
    (h : ∀ id ∈ ids, model.Owns origin.targetSpace scope ⟨kind, id⟩) :
    Sound origin model scope (.all Mentions.ofId ids) [] where
  owned symbol hsymbol := by
    obtain ⟨id, hid, hmem⟩ := List.mem_flatMap.mp hsymbol
    cases List.mem_singleton.mp hmem
    exact h id hid
  placed document hdocument := by
    obtain ⟨_, _, hmem⟩ := List.mem_flatMap.mp hdocument
    cases hmem
  carried _ h := nomatch h

theorem span {span : Span} (h : span.document = origin.document) :
    Sound origin model scope span.mentions [] where
  owned _ h := nomatch h
  placed := by
    intro document hdocument
    cases List.mem_singleton.mp hdocument
    exact h
  carried _ h := nomatch h

theorem spanned (h : Sound origin model scope mentions references) {span : Span}
    (hspan : span.document = origin.document) :
    Sound origin model scope (mentions ++ span.mentions) references := by
  have hboth := h.append (.span hspan)
  rw [List.append_nil] at hboth
  exact hboth

theorem reference {reference : Reference} (h : origin.source.root.Carries reference) :
    Sound origin model scope {} [reference] where
  owned _ h := nomatch h
  placed _ h := nomatch h
  carried := by
    intro other hother
    cases List.mem_singleton.mp hother
    exact h

end Sound

theorem Component.Stems.mono {origin : Origin} {model after : Model} {kind : SymbolKind}
    {component : Component kind} (h : component.Stems origin model)
    (hgrows : model.Prefix after) : component.Stems origin after := by
  cases kind with
  | element => exact h
  | «attribute» => exact h
  | type => exact ⟨h.1, h.2.1, h.2.2.mono hgrows⟩
  | attributeGroup => exact ⟨h.1, h.2.mono hgrows⟩
  | group => exact ⟨h.1, h.2.mono hgrows⟩

theorem Declaration.documents_mentions (declaration : Declaration) :
    declaration.mentions.documents = [] := by
  cases declaration with
  | reference name => rfl
  | named name type =>
      cases type with
      | none => rfl
      | some type => cases type <;> rfl

namespace Component.Stems

variable {origin : Origin} {model : Model} {kind : SymbolKind} {component : Component kind}

theorem placed (h : component.Stems origin model) :
    ∀ document ∈ component.mentions.documents, document = origin.document := by
  cases kind with
  | element =>
      intro document hdocument
      have hspan := List.mem_append.mp hdocument
      rw [Declaration.documents_mentions] at hspan
      exact (List.mem_singleton.mp (hspan.resolve_left List.not_mem_nil)).trans h.2
  | «attribute» =>
      intro document hdocument
      have hspan := List.mem_append.mp hdocument
      rw [Declaration.documents_mentions] at hspan
      exact (List.mem_singleton.mp (hspan.resolve_left List.not_mem_nil)).trans h.2
  | type => exact h.2.2.placed
  | attributeGroup => exact h.2.placed
  | group => exact h.2.placed

theorem carried (h : component.Stems origin model) :
    ∀ reference ∈ component.references, origin.source.root.Carries reference := by
  cases kind with
  | element => exact h.1.carried
  | «attribute» => exact h.1.carried
  | type => exact h.2.2.carried
  | attributeGroup => exact h.2.carried
  | group => exact h.2.carried

end Component.Stems

namespace Reading

variable {α β : Type} {origin : Origin} {model : Model} {Good : Model → α → Prop}
  {Fine : Model → β → Prop}

/-- Whatever a model gained stems from a document. -/
def Gained (origin : Origin) (model after : Model) : Prop :=
  model.Prefix after ∧ ∀ {kind : SymbolKind} (id : Id kind) (component : Component kind),
    model.size kind ≤ id.index → after.component? id = some component →
      component.Stems origin after

/-- A reading adds what stems from the document, and gives a value that is good in the model that
it leaves. -/
def Makes (origin : Origin) (model : Model) (Good : Model → α → Prop) (work : Reading α) : Prop :=
  ∀ value after, work origin model = .ok (value, after) →
    Gained origin model after ∧ Good after value

theorem gained_refl (origin : Origin) (model : Model) : Gained origin model model := by
  refine ⟨.refl model, ?_⟩
  intro kind id component hle hcomponent
  exact absurd (Model.index_lt_of_component? hcomponent) (Nat.not_lt.mpr hle)

theorem Gained.trans {model between after : Model} (h : Gained origin model between)
    (h' : Gained origin between after) : Gained origin model after := by
  refine ⟨h.1.trans h'.1, ?_⟩
  intro kind id component hle hcomponent
  by_cases hearly : id.index < between.size kind
  · rw [h'.1.component? id hearly] at hcomponent
    exact (h.2 id component hle hcomponent).mono h'.1
  · exact h'.2 id component (Nat.le_of_not_lt hearly) hcomponent

theorem makes_pure {value : α} (h : Good model value) : Makes origin model Good (pure value) := by
  intro found after heq
  cases heq
  exact ⟨gained_refl origin model, h⟩

theorem Makes.bind {work : Reading α} {next : α → Reading β} (hwork : Makes origin model Good work)
    (hnext : ∀ later value, model.Prefix later → Good later value →
      Makes origin later Fine (next value)) :
    Makes origin model Fine (work >>= next) := by
  intro found after heq
  simp only [Bind.bind, ReaderT.bind, StateT.bind, Except.bind] at heq
  cases hresult : work origin model with
  | error error =>
      rw [hresult] at heq
      cases heq
  | ok result =>
      rw [hresult] at heq
      obtain ⟨hgained, hgood⟩ := hwork _ _ hresult
      obtain ⟨hrest, hfine⟩ := hnext result.2 result.1 hgained.1 hgood _ _ heq
      exact ⟨hgained.trans hrest, hfine⟩

theorem Makes.map {work : Reading α} {f : α → β} (hwork : Makes origin model Good work)
    (hf : ∀ later value, Good later value → Fine later (f value)) :
    Makes origin model Fine (do return f (← work)) :=
  hwork.bind fun later value _ hgood => makes_pure (hf later value hgood)

theorem Makes.imp {Loose : Model → α → Prop} {work : Reading α}
    (hwork : Makes origin model Good work)
    (h : ∀ later value, Good later value → Loose later value) :
    Makes origin model Loose work :=
  fun value after heq => ⟨(hwork value after heq).1, h after value (hwork value after heq).2⟩

theorem makes_mapM {items : List α} {work : α → Reading β} {model : Model}
    (hmono : ∀ {later after value}, Fine later value → later.Prefix after → Fine after value)
    (hwork : ∀ later, ∀ item ∈ items, Makes origin later Fine (work item)) :
    Makes origin model (fun later values => ∀ value ∈ values, Fine later value)
      (items.mapM work) := by
  induction items generalizing model with
  | nil => exact makes_pure fun _ hmem => nomatch hmem
  | cons item rest ih =>
      rw [List.mapM_cons]
      apply (hwork model item List.mem_cons_self).bind
      intro later value _ hvalue
      apply (ih fun last other hother => hwork last other (List.mem_cons_of_mem _ hother)).bind
      intro last values hlast hvalues
      apply makes_pure
      intro found hfound
      rcases List.mem_cons.mp hfound with rfl | hmem
      · exact hmono hvalue hlast
      · exact hvalues found hmem

theorem makes_foldlM {items : List α} {step : β → α → Reading β} {start : β} {model : Model}
    (hstep : ∀ later value, ∀ item ∈ items, Fine later value →
      Makes origin later Fine (step value item)) (hstart : Fine model start) :
    Makes origin model Fine (items.foldlM step start) := by
  induction items generalizing model start with
  | nil => exact makes_pure hstart
  | cons item rest ih =>
      rw [List.foldlM_cons]
      apply (hstep model start item List.mem_cons_self hstart).bind
      intro later value _ hvalue
      apply ih (fun last found other hother => ?_) hvalue
      exact hstep last found other (List.mem_cons_of_mem _ hother)

/-! Steps that add nothing. -/

theorem makes_read : Makes origin model (fun later found => later = model ∧ found = origin)
    (read : Reading Origin) := by
  intro found after heq
  cases heq
  exact ⟨gained_refl origin model, rfl, rfl⟩

theorem makes_malformed (element : Xml.Element) (flaw : Flaw) :
    Makes origin model Good (malformed element flaw : Reading α) := by
  intro value after heq
  cases heq

theorem makes_malformed_bind (element : Xml.Element) (flaw : Flaw) (next : α → Reading β) :
    Makes origin model Fine (malformed element flaw >>= next) := by
  intro value after heq
  cases heq

theorem makes_lift (result : Except Error α) :
    Makes origin model (fun later value => later = model ∧ result = .ok value)
      (liftM result) := by
  intro value after heq
  cases result with
  | error error => cases heq
  | ok found =>
      cases heq
      exact ⟨gained_refl origin model, rfl, rfl⟩

theorem gained_push {kind : SymbolKind} {component : Component kind}
    (h : component.Stems origin model) : Gained origin model (model.push component) := by
  refine ⟨.push model component, ?_⟩
  intro other id found hle hfound
  have hlt := Model.index_lt_of_component? hfound
  by_cases heq : other = kind
  · subst heq
    rw [Model.size_push_self] at hlt
    obtain rfl : id = ⟨model.size other⟩ := Id.eq_of_index (by simp only; omega)
    rw [Model.component?_push_self] at hfound
    cases hfound
    exact h.mono (.push model _)
  · rw [Model.size_push_other _ _ heq] at hlt
    omega

theorem makes_push {kind : SymbolKind} (component : Component kind) {work : Reading (Id kind)}
    (hwork : work origin model = .ok (⟨model.size kind⟩, model.push component))
    (h : component.Stems origin model) :
    Makes origin model (fun later id => model.Prefix later ∧ later.component? id = some component)
      work := by
  intro value after heq
  cases hwork.symm.trans heq
  exact ⟨gained_push h, .push _ _, Model.component?_push_self _ _⟩

end Reading

end SchemaBinding
