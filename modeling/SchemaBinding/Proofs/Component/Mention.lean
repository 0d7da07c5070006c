import SchemaBinding.Component.Symbols
import SchemaBinding.Proofs.Component.Match

namespace SchemaBinding

inductive Symbol.Matches (pairing : Pairing) : Symbol → Symbol → Prop
  | mk {kind : SymbolKind} {a b : Id kind} : pairing.id a b → Matches pairing ⟨kind, a⟩ ⟨kind, b⟩

/-- What is stored in a component: the components it refers to by number, and the documents that
its spans are in. -/
structure Mentions where
  symbols : List Symbol := []
  documents : List DocumentId := []

namespace Mentions

def append (first second : Mentions) : Mentions :=
  ⟨first.symbols ++ second.symbols, first.documents ++ second.documents⟩

instance : Append Mentions :=
  ⟨append⟩

def all {α : Type} (mentions : α → Mentions) (items : List α) : Mentions :=
  ⟨items.flatMap fun item => (mentions item).symbols,
    items.flatMap fun item => (mentions item).documents⟩

def ofId {kind : SymbolKind} (id : Id kind) : Mentions :=
  { symbols := [⟨kind, id⟩] }

structure Matches (pairing : Pairing) (mentions other : Mentions) : Prop where
  symbols : List.Forall₂ (Symbol.Matches pairing) mentions.symbols other.symbols
  documents : List.Forall₂ pairing.document mentions.documents other.documents

end Mentions

def Span.mentions (span : Span) : Mentions :=
  { documents := [span.document] }

def TypeRef.mentions : TypeRef → Mentions
  | .named _ => {}
  | .inline id => .ofId id

def AttributeItem.mentions : AttributeItem → Mentions
  | .attribute id => .ofId id
  | .group use => use.span.mentions

mutual

def Particle.mentions : Particle → Mentions
  | .element id => .ofId id
  | .model _ _ particles => Particle.mentionsAll particles
  | .group use _ => use.span.mentions

def Particle.mentionsAll : List Particle → Mentions
  | [] => {}
  | particle :: rest => particle.mentions ++ Particle.mentionsAll rest

end

def Container.mentions (container : Container) : Mentions :=
  .all AttributeItem.mentions container.attributes ++
    .all Particle.mentions container.particle.toList

def SimpleDerivation.mentions : SimpleDerivation → Mentions
  | .restriction base _ => base.mentions
  | .list item => item.mentions
  | .union members => .all TypeRef.mentions members

def Derivation.mentions (derivation : Derivation) : Mentions :=
  derivation.container.mentions ++
    (.all Mentions.ofId derivation.inlineSimple.toList ++ derivation.span.mentions)

def TypeBody.mentions : TypeBody → Mentions
  | .simple derivation => derivation.mentions
  | .complex (.direct container) _ => container.mentions
  | .complex (.simple derivation) _ => derivation.mentions
  | .complex (.complex derivation) _ => derivation.mentions

def TypeDef.mentions (type : TypeDef) : Mentions :=
  type.body.mentions ++ type.span.mentions

def Declaration.mentions : Declaration → Mentions
  | .named _ type => .all TypeRef.mentions type.toList
  | .reference _ => {}

def ElementDecl.mentions (element : ElementDecl) : Mentions :=
  element.declaration.mentions ++ element.span.mentions

def AttributeDecl.mentions (declared : AttributeDecl) : Mentions :=
  declared.declaration.mentions ++ declared.span.mentions

def AttributeGroupDef.mentions (group : AttributeGroupDef) : Mentions :=
  .all AttributeItem.mentions group.attributes ++ group.span.mentions

def GroupDef.mentions (group : GroupDef) : Mentions :=
  .all Particle.mentions group.particle.toList ++ group.span.mentions

def Component.mentions : {kind : SymbolKind} → Component kind → Mentions
  | .element => ElementDecl.mentions
  | .attribute => AttributeDecl.mentions
  | .type => TypeDef.mentions
  | .attributeGroup => AttributeGroupDef.mentions
  | .group => GroupDef.mentions

theorem toList_rel {α β : Type} {related : α → β → Prop} {value? : Option α} {other? : Option β}
    (h : Option.Rel related value? other?) :
    List.Forall₂ related value?.toList other?.toList := by
  cases h with
  | none => exact .nil
  | some hvalue => exact .cons hvalue .nil

theorem exists_rel_of_mem {α β : Type} {related : α → β → Prop} {items : List α} {others : List β}
    (h : List.Forall₂ related items others) {item : α} (hitem : item ∈ items) :
    ∃ other ∈ others, related item other := by
  induction h with
  | nil => cases hitem
  | @cons _ other _ _ hfirst _ ih =>
      rcases List.mem_cons.mp hitem with rfl | hmem
      · exact ⟨other, List.mem_cons_self, hfirst⟩
      · obtain ⟨found, hfound, hrelated⟩ := ih hmem
        exact ⟨found, List.mem_cons_of_mem _ hfound, hrelated⟩

theorem findSome?_forall₂ {α β γ δ : Type} {related : α → β → Prop} {fine : γ → δ → Prop}
    {items : List α} {others : List β} {key : α → Option γ} {key' : β → Option δ}
    (h : List.Forall₂ related items others)
    (hkey : ∀ item other, related item other → Option.Rel fine (key item) (key' other)) :
    Option.Rel fine (items.findSome? key) (others.findSome? key') := by
  induction h with
  | nil => exact .none
  | @cons item other _ _ hitem _ ih =>
      rw [List.findSome?_cons, List.findSome?_cons]
      have hfound := hkey item other hitem
      generalize key item = found at hfound ⊢
      generalize key' other = found' at hfound ⊢
      cases hfound with
      | none => exact ih
      | some hfine => exact .some hfine

namespace Mentions

variable {pairing : Pairing}

theorem matches_nil : Matches pairing {} {} :=
  ⟨.nil, .nil⟩

theorem Matches.append {first first' second second' : Mentions} (h : first.Matches pairing first')
    (h' : second.Matches pairing second') :
    (first ++ second).Matches pairing (first' ++ second') :=
  ⟨List.rel_append h.symbols h'.symbols, List.rel_append h.documents h'.documents⟩

theorem matches_ofId {kind : SymbolKind} {a b : Id kind} (h : pairing.id a b) :
    (ofId a).Matches pairing (ofId b) :=
  ⟨.cons (.mk h) .nil, .nil⟩

theorem matches_span {span other : Span} (h : span.Matches pairing other) :
    span.mentions.Matches pairing other.mentions :=
  ⟨.nil, .cons h .nil⟩

theorem matches_all {α : Type} {alike : α → α → Prop} {mentions : α → Mentions}
    {items others : List α} (h : List.Forall₂ alike items others)
    (hmentions : ∀ item other, alike item other →
      (mentions item).Matches pairing (mentions other)) :
    (all mentions items).Matches pairing (all mentions others) where
  symbols := List.rel_flatMap h fun _ _ hitem => (hmentions _ _ hitem).symbols
  documents := List.rel_flatMap h fun _ _ hitem => (hmentions _ _ hitem).documents

end Mentions

section

variable {pairing : Pairing}

open Mentions

theorem TypeRef.Matches.mentions {reference other : TypeRef} (h : reference.Matches pairing other) :
    reference.mentions.Matches pairing other.mentions := by
  cases h with
  | named name => exact matches_nil
  | inline hpaired => exact matches_ofId hpaired

theorem AttributeItem.Matches.mentions {item other : AttributeItem}
    (h : item.Matches pairing other) : item.mentions.Matches pairing other.mentions := by
  cases h with
  | «attribute» hpaired => exact matches_ofId hpaired
  | group huse => exact matches_span huse.span

mutual

theorem Particle.mentions_matches : (particle other : Particle) →
    particle.Matches pairing other → particle.mentions.Matches pairing other.mentions
  | .element _, _, h => by
      cases h with
      | element hpaired => exact matches_ofId hpaired
  | .model _ _ particles, _, h => by
      cases h with
      | @model _ _ _ others hparticles =>
          exact Particle.mentionsAll_matches particles others hparticles
  | .group _ _, _, h => by
      cases h with
      | group _ huse => exact matches_span huse.span

theorem Particle.mentionsAll_matches : (particles others : List Particle) →
    List.Forall₂ (Particle.Matches pairing) particles others →
    (Particle.mentionsAll particles).Matches pairing (Particle.mentionsAll others)
  | [], _, h => by
      cases h
      exact matches_nil
  | particle :: rest, _, h => by
      cases h with
      | @cons _ other _ rest' hfirst hrest =>
          exact (Particle.mentions_matches particle other hfirst).append
            (Particle.mentionsAll_matches rest rest' hrest)

end

theorem Container.Matches.mentions {container other : Container}
    (h : container.Matches pairing other) : container.mentions.Matches pairing other.mentions :=
  (matches_all h.attributes fun _ _ => AttributeItem.Matches.mentions).append
    (matches_all (toList_rel h.particle) Particle.mentions_matches)

theorem SimpleDerivation.Matches.mentions {derivation other : SimpleDerivation}
    (h : derivation.Matches pairing other) :
    derivation.mentions.Matches pairing other.mentions := by
  cases h with
  | restriction facets hbase => exact hbase.mentions
  | list hitem => exact hitem.mentions
  | union hmembers => exact matches_all hmembers fun _ _ => TypeRef.Matches.mentions

theorem Derivation.Matches.mentions {derivation other : Derivation}
    (h : derivation.Matches pairing other) : derivation.mentions.Matches pairing other.mentions :=
  h.container.mentions.append
    ((matches_all (toList_rel h.inlineSimple) fun _ _ => matches_ofId).append
      (matches_span h.span))

theorem TypeBody.Matches.mentions {body other : TypeBody} (h : body.Matches pairing other) :
    body.mentions.Matches pairing other.mentions := by
  cases h with
  | simple hderivation => exact hderivation.mentions
  | complex mixed hcontent =>
      cases hcontent with
      | direct hcontainer => exact hcontainer.mentions
      | simple hderivation => exact hderivation.mentions
      | complex hderivation => exact hderivation.mentions

theorem Declaration.Matches.mentions {declaration other : Declaration}
    (h : declaration.Matches pairing other) :
    declaration.mentions.Matches pairing other.mentions := by
  cases h with
  | named name htype => exact matches_all (toList_rel htype) fun _ _ => TypeRef.Matches.mentions
  | reference target => exact matches_nil

theorem Component.mentions_matches : {kind : SymbolKind} → {component other : Component kind} →
    component.Matches pairing other →
      (Component.mentions component).Matches pairing (Component.mentions other)
  | .element, _, _, h => (ElementDecl.Matches.declaration h).mentions.append
      (matches_span (ElementDecl.Matches.span h))
  | .attribute, _, _, h => (AttributeDecl.Matches.declaration h).mentions.append
      (matches_span (AttributeDecl.Matches.span h))
  | .type, _, _, h => (TypeDef.Matches.body h).mentions.append
      (matches_span (TypeDef.Matches.span h))
  | .attributeGroup, _, _, h =>
      (matches_all (AttributeGroupDef.Matches.attributes h)
        fun _ _ => AttributeItem.Matches.mentions).append
        (matches_span (AttributeGroupDef.Matches.span h))
  | .group, _, _, h =>
      (matches_all (toList_rel (GroupDef.Matches.particle h)) Particle.mentions_matches).append
        (matches_span (GroupDef.Matches.span h))

end

end SchemaBinding
