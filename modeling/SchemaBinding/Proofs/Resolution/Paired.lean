import SchemaBinding.Proofs.Component.Match
import SchemaBinding.Proofs.Resolution.Rules

namespace SchemaBinding

theorem TypeDef.Matches.isComplex_eq {pairing : Pairing} {type other : TypeDef}
    (h : type.Matches pairing other) : type.isComplex = other.isComplex := by
  have hbody := h.body
  unfold isComplex
  generalize type.body = body at hbody ⊢
  generalize other.body = body' at hbody ⊢
  cases hbody <;> rfl

inductive TypeTarget.Matches (pairing : Pairing) : TypeTarget → TypeTarget → Prop
  | builtin (type : Builtin) : Matches pairing (.builtin type) (.builtin type)
  | simple {a b : TypeId} : pairing.id a b → Matches pairing (.simple a) (.simple b)
  | complex {a b : TypeId} : pairing.id a b → Matches pairing (.complex a) (.complex b)

structure SchemaSet.Target.Matches (pairing : Pairing) {kind : SymbolKind}
    (target other : SchemaSet.Target kind) : Prop where
  id : pairing.id target.id other.id
  name : target.name = other.name
  type : Option.Rel (TypeRef.Matches pairing) target.type other.type
  documentation : pairing.documented → target.documentation = other.documentation
  span : target.span.Matches pairing other.span

structure SchemaSet.Declared.Matches (pairing : Pairing) (declared other : SchemaSet.Declared) :
    Prop where
  declaration : declared.declaration.Matches pairing other.declaration
  documentation : pairing.documented → declared.documentation = other.documentation
  span : declared.span.Matches pairing other.span

/-- Two sets seen through a pairing. -/
structure SchemaSet.Paired (pairing : Pairing) (first second : SchemaSet) : Prop where
  component : ∀ {kind : SymbolKind} {a b : Id kind}, pairing.id a b →
    ∃ component other : Component kind, first.model.component? a = some component ∧
      second.model.component? b = some other ∧ component.Matches pairing other
  unique : ∀ {kind : SymbolKind} {a a' b b' : Id kind}, pairing.id a b → pairing.id a' b' →
    (a = a' ↔ b = b')
  lookup : ∀ (kind : SymbolKind) (name : QName) {id id' : DocumentId}, pairing.document id id' →
    Option.Rel pairing.id (first.lookup? kind name id) (second.lookup? kind name id')

/-- Failures of two sets with one cause, which show matching places or name paired components. -/
inductive Failure (pairing : Pairing) (first second : SchemaSet) : Error → Error → Prop
  | unresolved (kind : SymbolKind) (name : String) {span other : Span} :
      span.Matches pairing other →
        Failure pairing first second (.unresolved kind name (first.fragment span))
          (.unresolved kind name (second.fragment other))
  | malformed (flaw : Flaw) {span other : Span} : span.Matches pairing other →
      Failure pairing first second (.malformed flaw (first.fragment span))
        (.malformed flaw (second.fragment other))
  | cyclic {kind : SymbolKind} {ids others : List (Id kind)} :
      List.Forall₂ pairing.id ids others →
        Failure pairing first second (.cyclic kind (ids.map (first.label kind)))
          (.cyclic kind (others.map (second.label kind)))

namespace SchemaSet.Paired

variable {pairing : Pairing} {first second : SchemaSet} (h : first.Paired pairing second)

/-- Two results that are both values that are related, or both failures with one cause. -/
abbrev Parallel {α β : Type} (_ : first.Paired pairing second) (related : α → β → Prop) :
    Except Error α → Except Error β → Prop :=
  Concurs (Failure pairing first second) related

include h

theorem index_lt {kind : SymbolKind} {a b : Id kind} (hpaired : pairing.id a b) :
    a.index < first.model.size kind := by
  obtain ⟨_, _, hfirst, _⟩ := h.component hpaired
  exact Model.index_lt_of_component? hfirst

theorem biUnique (kind : SymbolKind) : Relator.BiUnique (@Pairing.id pairing kind) :=
  ⟨fun _ _ _ hfirst hsecond => (h.unique hfirst hsecond).mpr rfl,
    fun _ _ _ hfirst hsecond => (h.unique hfirst hsecond).mp rfl⟩

theorem mem_iff {kind : SymbolKind} {ids others : List (Id kind)}
    (hids : List.Forall₂ pairing.id ids others) {a b : Id kind} (hpaired : pairing.id a b) :
    a ∈ ids ↔ b ∈ others :=
  List.rel_mem (h.biUnique kind) hpaired hids

theorem resolve (kind : SymbolKind) (name : QName) {span other : Span}
    (hspan : span.Matches pairing other) :
    h.Parallel pairing.id (first.resolve kind name span) (second.resolve kind name other) := by
  have hlookup := h.lookup kind name hspan
  unfold SchemaSet.resolve
  generalize first.lookup? kind name span.document = found at hlookup ⊢
  generalize second.lookup? kind name other.document = found' at hlookup ⊢
  cases hlookup with
  | none => exact .error (.unresolved kind name.text hspan)
  | some hid => exact .ok hid

theorem exists_type {a b : TypeId} (hpaired : pairing.id a b) :
    ∃ type other : TypeDef, first.model.type? a = some type ∧
      second.model.type? b = some other ∧ type.Matches pairing other :=
  h.component hpaired

theorem typeDef {a b : TypeId} (hpaired : pairing.id a b) :
    h.Parallel (TypeDef.Matches pairing) (first.typeDef a) (second.typeDef b) := by
  obtain ⟨type, other, htype, hother, hmatches⟩ := h.exists_type hpaired
  rw [SchemaSet.typeDef, SchemaSet.typeDef, htype, hother]
  exact .ok hmatches

theorem typeTarget {a b : TypeId} (hpaired : pairing.id a b) :
    h.Parallel (TypeTarget.Matches pairing) (first.typeTarget a) (second.typeTarget b) := by
  apply Concurs.map (h.typeDef hpaired)
  intro type other hmatches
  rw [hmatches.isComplex_eq]
  split
  · exact .complex hpaired
  · exact .simple hpaired

theorem resolveTypeName (name : QName) {span other : Span} (hspan : span.Matches pairing other) :
    h.Parallel (TypeTarget.Matches pairing) (first.resolveTypeName name span)
      (second.resolveTypeName name other) := by
  unfold SchemaSet.resolveTypeName
  split
  · split
    · exact .ok (.builtin _)
    · exact .error (.unresolved .type name.text hspan)
  · exact (h.resolve .type name hspan).bind fun _ _ => h.typeTarget

theorem resolveTypeRef {reference reference' : TypeRef}
    (hreference : reference.Matches pairing reference') {span other : Span}
    (hspan : span.Matches pairing other) :
    h.Parallel (TypeTarget.Matches pairing) (first.resolveTypeRef reference span)
      (second.resolveTypeRef reference' other) := by
  cases hreference with
  | named name => exact h.resolveTypeName name hspan
  | inline hpaired => exact h.typeTarget hpaired

theorem elementDecl {a b : ElementId} (hpaired : pairing.id a b) :
    h.Parallel (ElementDecl.Matches pairing) (first.elementDecl a) (second.elementDecl b) := by
  obtain ⟨element, other, hfirst, hsecond, hmatches⟩ := h.component hpaired
  have helement : first.model.element? a = some element := hfirst
  have hother : second.model.element? b = some other := hsecond
  rw [SchemaSet.elementDecl, SchemaSet.elementDecl, helement, hother]
  exact .ok hmatches

theorem attributeDecl {a b : AttributeId} (hpaired : pairing.id a b) :
    h.Parallel (AttributeDecl.Matches pairing) (first.attributeDecl a)
      (second.attributeDecl b) := by
  obtain ⟨declared, other, hfirst, hsecond, hmatches⟩ := h.component hpaired
  have hdeclared : first.model.attribute? a = some declared := hfirst
  have hother : second.model.attribute? b = some other := hsecond
  rw [SchemaSet.attributeDecl, SchemaSet.attributeDecl, hdeclared, hother]
  exact .ok hmatches

theorem declared? {kind : SymbolKind} (hkind : kind = .element ∨ kind = .attribute)
    {a b : Id kind} (hpaired : pairing.id a b) :
    ∃ found other, first.declared? kind a = some found ∧ second.declared? kind b = some other ∧
      found.Matches pairing other := by
  obtain ⟨component, other, hfirst, hsecond, hmatches⟩ := h.component hpaired
  rcases hkind with rfl | rfl
  · have helement : first.model.element? a = some component := hfirst
    have hother : second.model.element? b = some other := hsecond
    simp only [SchemaSet.declared?, helement, hother]
    exact ⟨_, _, rfl, rfl, ElementDecl.Matches.declaration hmatches, hmatches.documentation,
      hmatches.span⟩
  · have hdeclared : first.model.attribute? a = some component := hfirst
    have hother : second.model.attribute? b = some other := hsecond
    simp only [SchemaSet.declared?, hdeclared, hother]
    exact ⟨_, _, rfl, rfl, AttributeDecl.Matches.declaration hmatches, hmatches.documentation,
      hmatches.span⟩

omit h in
theorem declarationLabel_eq {set : SchemaSet} {kind : SymbolKind}
    (hkind : kind = .element ∨ kind = .attribute) :
    set.declarationLabel kind = set.label kind := by
  rcases hkind with rfl | rfl <;> rfl

theorem target {kind : SymbolKind} (hkind : kind = .element ∨ kind = .attribute)
    {passed passed' : List (Id kind)} (hpassed : List.Forall₂ pairing.id passed passed')
    {a b : Id kind} (hpaired : pairing.id a b) :
    h.Parallel (Target.Matches pairing) (first.target kind passed a)
      (second.target kind passed' b) := by
  induction hroom : first.unlisted kind passed using Nat.strongRecOn
    generalizing passed passed' a b with
  | _ room ih =>
      have hmem := h.mem_iff hpassed hpaired
      rw [target_eq, target_eq]
      by_cases hseen : a ∈ passed
      · rw [if_pos hseen, if_pos (hmem.mp hseen), declarationLabel_eq hkind,
          declarationLabel_eq hkind]
        exact .error (.cyclic (List.rel_reverse (.cons hpaired hpassed)))
      · rw [if_neg hseen, if_neg (mt hmem.mpr hseen)]
        obtain ⟨found, other, hfound, hother, hmatches⟩ := h.declared? hkind hpaired
        rw [hfound, hother]
        obtain ⟨declaration, documentation, span⟩ := found
        obtain ⟨declaration', documentation', span'⟩ := other
        obtain ⟨hdeclaration, hdocumentation, hspan⟩ := hmatches
        cases hdeclaration with
        | named name htype => exact .ok ⟨hpaired, rfl, htype, hdocumentation, hspan⟩
        | reference name =>
            apply (h.resolve kind name hspan).bind
            intro next next' hnext
            have hless := unlisted_cons_lt (h.index_lt hpaired) hseen
            exact ih _ (hroom ▸ hless) (.cons hpaired hpassed) hnext rfl

theorem targetType {kind : SymbolKind} {target other : Target kind}
    (hmatches : target.Matches pairing other) :
    h.Parallel (TypeTarget.Matches pairing) (first.targetType target)
      (second.targetType other) := by
  obtain ⟨id, name, type, documentation, span⟩ := target
  obtain ⟨id', name', type', documentation', span'⟩ := other
  obtain ⟨_, _, htype, _, hspan⟩ := hmatches
  unfold SchemaSet.targetType
  cases htype with
  | none => exact .ok (.builtin .anyType)
  | some hreference => exact h.resolveTypeRef hreference hspan

theorem typeOf {kind : SymbolKind} (hkind : kind = .element ∨ kind = .attribute)
    {a b : Id kind} (hpaired : pairing.id a b) :
    h.Parallel (TypeTarget.Matches pairing) (first.typeOf kind a) (second.typeOf kind b) :=
  (h.target hkind .nil hpaired).bind fun _ _ => h.targetType

theorem nameOf {kind : SymbolKind} (hkind : kind = .element ∨ kind = .attribute)
    {a b : Id kind} (hpaired : pairing.id a b) :
    h.Parallel Eq (first.nameOf kind a) (second.nameOf kind b) :=
  Concurs.map (h.target hkind .nil hpaired) fun _ _ => Target.Matches.name

theorem attributeGroupDef {a b : AttributeGroupId} (hpaired : pairing.id a b) :
    h.Parallel (AttributeGroupDef.Matches pairing) (first.attributeGroupDef a)
      (second.attributeGroupDef b) := by
  obtain ⟨group, other, hfirst, hsecond, hmatches⟩ := h.component hpaired
  have hgroup : first.model.attributeGroup? a = some group := hfirst
  have hother : second.model.attributeGroup? b = some other := hsecond
  rw [SchemaSet.attributeGroupDef, SchemaSet.attributeGroupDef, hgroup, hother]
  exact .ok hmatches

theorem groupDef {a b : GroupId} (hpaired : pairing.id a b) :
    h.Parallel (GroupDef.Matches pairing) (first.groupDef a) (second.groupDef b) := by
  obtain ⟨group, other, hfirst, hsecond, hmatches⟩ := h.component hpaired
  have hgroup : first.model.group? a = some group := hfirst
  have hother : second.model.group? b = some other := hsecond
  rw [SchemaSet.groupDef, SchemaSet.groupDef, hgroup, hother]
  exact .ok hmatches

theorem dropWhile_rel {kind : SymbolKind} {ids others : List (Id kind)}
    (hids : List.Forall₂ pairing.id ids others) {a b : Id kind} (hpaired : pairing.id a b) :
    List.Forall₂ pairing.id (ids.dropWhile (· != a)) (others.dropWhile (· != b)) := by
  induction hids with
  | nil => exact .nil
  | @cons id other rest rest' hfirst hrest ih =>
      have hsame := h.unique hfirst hpaired
      by_cases heq : id = a
      · rw [List.dropWhile_cons_of_neg (by simpa using heq),
          List.dropWhile_cons_of_neg (by simpa using hsame.mp heq)]
        exact .cons hfirst hrest
      · rw [List.dropWhile_cons_of_pos (by simpa using heq),
          List.dropWhile_cons_of_pos (by simpa using mt hsame.mpr heq)]
        exact ih

theorem chain_rel {kind : SymbolKind} {unfinished unfinished' : List (Id kind)}
    (hunfinished : List.Forall₂ pairing.id unfinished unfinished') {a b : Id kind}
    (hpaired : pairing.id a b) :
    List.Forall₂ pairing.id (chain unfinished a) (chain unfinished' b) :=
  List.rel_append (h.dropWhile_rel (List.rel_reverse hunfinished) hpaired) (.cons hpaired .nil)

theorem answer {kind : SymbolKind} {α β : Type} {related : α → β → Prop}
    (rule : Rule first kind α) (other : Rule second kind β)
    (happly : ∀ answer answer',
      (∀ a b, pairing.id a b → h.Parallel related (answer a) (answer' b)) →
        ∀ a b, pairing.id a b → h.Parallel related (rule.apply answer a) (other.apply answer' b))
    {a b : Id kind} (hpaired : pairing.id a b) :
    h.Parallel related (rule.answer a) (other.answer b) := by
  have hall : ∀ unfinished unfinished', List.Forall₂ pairing.id unfinished unfinished' →
      ∀ a b, pairing.id a b →
        h.Parallel related (rule.answerFrom unfinished a) (other.answerFrom unfinished' b) := by
    intro unfinished
    induction hroom : first.unlisted kind unfinished using Nat.strongRecOn
      generalizing unfinished with
    | _ room ih =>
        intro unfinished' hunfinished a b hpaired
        have hmem := h.mem_iff hunfinished hpaired
        by_cases hopen : a ∈ unfinished
        · rw [Rule.answerFrom_of_mem hopen, Rule.answerFrom_of_mem (hmem.mp hopen)]
          exact .error (.cyclic (h.chain_rel hunfinished hpaired))
        · rw [Rule.answerFrom_of_not_mem hopen, Rule.answerFrom_of_not_mem (mt hmem.mpr hopen)]
          apply happly _ _ _ a b hpaired
          have hless := unlisted_cons_lt (h.index_lt hpaired) hopen
          exact ih _ (hroom ▸ hless) (a :: unfinished) rfl (b :: unfinished')
            (.cons hpaired hunfinished)
  exact hall [] [] .nil a b hpaired

end SchemaSet.Paired

end SchemaBinding
