import Mathlib.Data.List.Forall2
import Mathlib.Data.Option.Basic
import SchemaBinding.Component.Model

namespace SchemaBinding

theorem Id.eq_of_index {kind : SymbolKind} {a b : Id kind} (h : a.index = b.index) : a = b :=
  congrArg Id.mk h

/-- Which numbers stand for the same component, and which for the same document. -/
structure Pairing where
  id : ∀ {kind : SymbolKind}, Id kind → Id kind → Prop
  document : DocumentId → DocumentId → Prop
  /-- Whether components have to be documented in the same words. -/
  documented : Prop := True

namespace Pairing

structure Within (first second : Pairing) : Prop where
  id : ∀ {kind : SymbolKind} {a b : Id kind}, first.id a b → second.id a b
  document : ∀ {a b : DocumentId}, first.document a b → second.document a b
  documented : second.documented → first.documented

theorem Within.refl (pairing : Pairing) : pairing.Within pairing :=
  ⟨fun h => h, fun h => h, fun h => h⟩

theorem Within.trans {first second third : Pairing} (h : first.Within second)
    (h' : second.Within third) : first.Within third where
  id hpaired := h'.id (h.id hpaired)
  document hpaired := h'.document (h.document hpaired)
  documented hdocumented := h.documented (h'.documented hdocumented)

end Pairing

variable (pairing : Pairing)

def Span.Matches (span other : Span) : Prop :=
  pairing.document span.document other.document

inductive TypeRef.Matches : TypeRef → TypeRef → Prop
  | named (name : QName) : Matches (.named name) (.named name)
  | inline {a b : TypeId} : pairing.id a b → Matches (.inline a) (.inline b)

structure GroupUse.Matches (use other : GroupUse) : Prop where
  name : use.name = other.name
  span : use.span.Matches pairing other.span

inductive AttributeItem.Matches : AttributeItem → AttributeItem → Prop
  | attribute {a b : AttributeId} : pairing.id a b → Matches (.attribute a) (.attribute b)
  | group {use other : GroupUse} : use.Matches pairing other →
      Matches (.group use) (.group other)

inductive Particle.Matches : Particle → Particle → Prop
  | element {a b : ElementId} : pairing.id a b → Matches (.element a) (.element b)
  | model (type : ModelType) (occurs : Occurs) {particles others : List Particle} :
      List.Forall₂ Matches particles others →
        Matches (.model type occurs particles) (.model type occurs others)
  | group {use other : GroupUse} (occurs : Occurs) : use.Matches pairing other →
      Matches (.group use occurs) (.group other occurs)

structure Container.Matches (container other : Container) : Prop where
  attributes : List.Forall₂ (AttributeItem.Matches pairing) container.attributes
    other.attributes
  particle : Option.Rel (Particle.Matches pairing) container.particle other.particle

inductive SimpleDerivation.Matches : SimpleDerivation → SimpleDerivation → Prop
  | restriction {base other : TypeRef} (facets : Facets) : base.Matches pairing other →
      Matches (.restriction base facets) (.restriction other facets)
  | list {item other : TypeRef} : item.Matches pairing other → Matches (.list item) (.list other)
  | union {members others : List TypeRef} :
      List.Forall₂ (TypeRef.Matches pairing) members others →
        Matches (.union members) (.union others)

structure Derivation.Matches (derivation other : Derivation) : Prop where
  method : derivation.method = other.method
  base : derivation.base = other.base
  container : derivation.container.Matches pairing other.container
  inlineSimple : Option.Rel pairing.id derivation.inlineSimple other.inlineSimple
  facets : derivation.facets = other.facets
  span : derivation.span.Matches pairing other.span

inductive ComplexContent.Matches : ComplexContent → ComplexContent → Prop
  | direct {container other : Container} : container.Matches pairing other →
      Matches (.direct container) (.direct other)
  | simple {derivation other : Derivation} : derivation.Matches pairing other →
      Matches (.simple derivation) (.simple other)
  | complex {derivation other : Derivation} : derivation.Matches pairing other →
      Matches (.complex derivation) (.complex other)

inductive TypeBody.Matches : TypeBody → TypeBody → Prop
  | simple {derivation other : SimpleDerivation} : derivation.Matches pairing other →
      Matches (.simple derivation) (.simple other)
  | complex {content other : ComplexContent} (mixed : Bool) : content.Matches pairing other →
      Matches (.complex content mixed) (.complex other mixed)

structure TypeDef.Matches (type other : TypeDef) : Prop where
  name : type.name = other.name
  space : type.space = other.space
  owner : type.owner = other.owner
  documentation : pairing.documented → type.documentation = other.documentation
  span : type.span.Matches pairing other.span
  body : type.body.Matches pairing other.body

inductive Declaration.Matches : Declaration → Declaration → Prop
  | named (name : String) {type other : Option TypeRef} :
      Option.Rel (TypeRef.Matches pairing) type other →
        Matches (.named name type) (.named name other)
  | reference (target : QName) : Matches (.reference target) (.reference target)

structure ElementDecl.Matches (element other : ElementDecl) : Prop where
  declaration : element.declaration.Matches pairing other.declaration
  occurs : element.occurs = other.occurs
  space : element.space = other.space
  documentation : pairing.documented → element.documentation = other.documentation
  span : element.span.Matches pairing other.span

structure AttributeDecl.Matches (declared other : AttributeDecl) : Prop where
  declaration : declared.declaration.Matches pairing other.declaration
  use : declared.use = other.use
  space : declared.space = other.space
  documentation : pairing.documented → declared.documentation = other.documentation
  span : declared.span.Matches pairing other.span

structure AttributeGroupDef.Matches (group other : AttributeGroupDef) : Prop where
  name : group.name = other.name
  space : group.space = other.space
  attributes : List.Forall₂ (AttributeItem.Matches pairing) group.attributes other.attributes
  span : group.span.Matches pairing other.span

structure GroupDef.Matches (group other : GroupDef) : Prop where
  name : group.name = other.name
  space : group.space = other.space
  particle : Option.Rel (Particle.Matches pairing) group.particle other.particle
  span : group.span.Matches pairing other.span

def Component : SymbolKind → Type
  | .element => ElementDecl
  | .attribute => AttributeDecl
  | .type => TypeDef
  | .attributeGroup => AttributeGroupDef
  | .group => GroupDef

def Component.Matches : {kind : SymbolKind} → Component kind → Component kind → Prop
  | .element => ElementDecl.Matches pairing
  | .attribute => AttributeDecl.Matches pairing
  | .type => TypeDef.Matches pairing
  | .attributeGroup => AttributeGroupDef.Matches pairing
  | .group => GroupDef.Matches pairing

namespace Model

def components (model : Model) : (kind : SymbolKind) → Array (Component kind)
  | .element => model.elements
  | .attribute => model.attributes
  | .type => model.types
  | .attributeGroup => model.attributeGroups
  | .group => model.groups

def component? (model : Model) {kind : SymbolKind} (id : Id kind) : Option (Component kind) :=
  (model.components kind)[id.index]?

def push (model : Model) : {kind : SymbolKind} → Component kind → Model
  | .element, element => (model.addElement element).2
  | .attribute, declared => (model.addAttribute declared).2
  | .type, type => (model.addType type).2
  | .attributeGroup, group => (model.addAttributeGroup group).2
  | .group, group => (model.addGroup group).2

@[simp] theorem size_components (model : Model) (kind : SymbolKind) :
    (model.components kind).size = model.size kind := by
  cases kind <;> rfl

theorem components_push_self (model : Model) {kind : SymbolKind} (component : Component kind) :
    (model.push component).components kind = (model.components kind).push component := by
  cases kind <;> rfl

theorem components_push_other (model : Model) {kind other : SymbolKind}
    (component : Component kind) (hne : other ≠ kind) :
    (model.push component).components other = model.components other := by
  cases kind <;> cases other <;> first | rfl | exact absurd rfl hne

theorem size_push_self (model : Model) {kind : SymbolKind} (component : Component kind) :
    (model.push component).size kind = model.size kind + 1 := by
  rw [← size_components, components_push_self, Array.size_push, size_components]

theorem size_push_other (model : Model) {kind other : SymbolKind} (component : Component kind)
    (hne : other ≠ kind) : (model.push component).size other = model.size other := by
  rw [← size_components, components_push_other model component hne, size_components]

theorem size_le_push (model : Model) {kind : SymbolKind} (component : Component kind)
    (other : SymbolKind) : model.size other ≤ (model.push component).size other := by
  by_cases heq : other = kind
  · subst heq
    rw [size_push_self]
    exact Nat.le_succ _
  · exact Nat.le_of_eq (size_push_other model component heq).symm

theorem component?_eq_some_iff {model : Model} {kind : SymbolKind} {id : Id kind}
    {component : Component kind} : model.component? id = some component ↔
      ∃ h : id.index < (model.components kind).size,
        (model.components kind)[id.index] = component :=
  Array.getElem?_eq_some_iff

theorem index_lt_of_component? {model : Model} {kind : SymbolKind} {id : Id kind}
    {component : Component kind} (h : model.component? id = some component) :
    id.index < model.size kind := by
  obtain ⟨hlt, _⟩ := component?_eq_some_iff.mp h
  rw [size_components] at hlt
  exact hlt

theorem component?_push_self (model : Model) {kind : SymbolKind} (component : Component kind) :
    (model.push component).component? ⟨model.size kind⟩ = some component := by
  rw [component?, components_push_self, ← size_components]
  exact Array.getElem?_push_size

theorem component?_push_of_lt {model : Model} {kind other : SymbolKind}
    (component : Component kind) {id : Id other} (h : id.index < model.size other) :
    (model.push component).component? id = model.component? id := by
  by_cases heq : other = kind
  · subst heq
    rw [component?, components_push_self, component?, Array.getElem?_push_lt (by simpa using h)]
    exact (Array.getElem?_eq_getElem _).symm
  · rw [component?, components_push_other model component heq, component?]

end Model

end SchemaBinding
