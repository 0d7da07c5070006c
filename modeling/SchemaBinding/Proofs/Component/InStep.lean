import SchemaBinding.Proofs.Component.Akin

namespace SchemaBinding

namespace Reading

structure Origin.Beside (base : Base) (first second : Origin) : Prop where
  document : base.documents first.document second.document
  targetSpace : first.targetSpace = second.targetSpace
  permissive : base.terms.Permits first.permissive second.permissive

/-- What two readings come to that start from models side by side. -/
def StepsTo {α β : Type} (base : Base) (related : Pairing → α → β → Prop)
    (first second : Model) (result : α × Model) (other : β × Model) : Prop :=
  base.Abreast result.2 other.2 ∧ first.Prefix result.2 ∧ second.Prefix other.2 ∧
    base.Holds result.2.size fun pairing => related pairing result.1 other.1

/-- Two readings go in step from when so many components are there. -/
def InStep {α β : Type} (base : Base) (since : SymbolKind → Nat)
    (related : Pairing → α → β → Prop) (work : Reading α) (other : Reading β) : Prop :=
  ∀ origin origin', Origin.Beside base origin origin' → ∀ first second,
    base.Abreast first second → (∀ kind, since kind ≤ first.size kind) →
      Ends base.terms (StepsTo base related first second) (work origin first)
        (other origin' second)

variable {α β γ δ : Type} {base : Base} {since : SymbolKind → Nat}
  {related : Pairing → α → β → Prop} {fine : Pairing → γ → δ → Prop}

theorem inStep_pure {value : α} {other : β}
    (h : base.Holds since fun pairing => related pairing value other) :
    InStep base since related (pure value) (pure other) := by
  intro origin origin' _ first second habreast hsince
  exact .ok ⟨habreast, .refl first, .refl second, h.mono hsince⟩

theorem InStep.bind {work : Reading α} {other : Reading β} {next : α → Reading γ}
    {next' : β → Reading δ} (h : InStep base since related work other)
    (hnext : ∀ later value value', (∀ kind, since kind ≤ later kind) →
      (base.Holds later fun pairing => related pairing value value') →
        InStep base later fine (next value) (next' value')) :
    InStep base since fine (work >>= next) (other >>= next') := by
  intro origin origin' horigin first second habreast hsince
  apply (h origin origin' horigin first second habreast hsince).bind
  rintro reached reached' ⟨hbetween, hfirst, hsecond, hrelated⟩
  have hlater : ∀ kind, since kind ≤ reached.2.size kind := fun kind =>
    Nat.le_trans (hsince kind) (hfirst.size_le kind)
  have hrest := hnext reached.2.size reached.1 reached'.1 hlater hrelated origin origin'
    horigin reached.2 reached'.2 hbetween fun _ => Nat.le_refl _
  apply hrest.imp
  rintro final final' ⟨hend, hgrows, hgrows', hfine⟩
  exact ⟨hend, hfirst.trans hgrows, hsecond.trans hgrows', hfine⟩

theorem InStep.map {work : Reading α} {other : Reading β} {f : α → γ} {g : β → δ}
    (h : InStep base since related work other)
    (hmap : ∀ pairing value value', related pairing value value' →
      fine pairing (f value) (g value')) :
    InStep base since fine (do return f (← work)) (do return g (← other)) :=
  h.bind fun _ _ _ _ hrelated => inStep_pure (hrelated.imp fun pairing => hmap pairing _ _)

def equal (_ : Pairing) (value other : α) : Prop :=
  value = other

theorem inStep_same (value : α) : InStep base since equal (pure value) (pure value) :=
  inStep_pure fun _ _ => rfl

theorem inStep_fail (error : Error) :
    InStep base since related (liftM (.error error : Except Error α))
      (liftM (.error error : Except Error β)) := by
  intro origin origin' _ first second _ _
  exact .fail _ _ error

theorem inStep_lift (result : Except Error α) :
    InStep base since equal (liftM result) (liftM result) := by
  cases result with
  | error error => exact inStep_fail error
  | ok value => exact inStep_same value

theorem InStep.bind_eq {work other : Reading α} {next : α → Reading γ} {next' : α → Reading δ}
    (h : InStep base since equal work other)
    (hnext : ∀ later value, (∀ kind, since kind ≤ later kind) →
      InStep base later fine (next value) (next' value)) :
    InStep base since fine (work >>= next) (other >>= next') := by
  apply h.bind
  intro later value value' hlater hequal
  cases hequal.here
  exact hnext later value hlater

theorem inStep_mapM {items : List γ} {others : List δ} {alike : γ → δ → Prop}
    (hitems : List.Forall₂ alike items others) {work : γ → Reading α} {work' : δ → Reading β}
    (h : ∀ since item other, alike item other →
      InStep base since related (work item) (work' other)) :
    InStep base since (fun pairing => List.Forall₂ (related pairing)) (items.mapM work)
      (others.mapM work') := by
  induction hitems generalizing since with
  | nil => exact inStep_pure fun _ _ => .nil
  | cons hitem _ ih =>
      rw [List.mapM_cons, List.mapM_cons]
      apply (h since _ _ hitem).bind
      intro later value value' _ hvalue
      apply ih.bind
      intro last values values' hlast hvalues
      apply inStep_pure
      intro pairing hwithin
      exact .cons ((hvalue.mono hlast) pairing hwithin) (hvalues pairing hwithin)

theorem inStep_foldlM {items : List γ} {others : List δ} {alike : γ → δ → Prop}
    (hitems : List.Forall₂ alike items others) {step : α → γ → Reading α}
    {step' : β → δ → Reading β}
    (h : ∀ since item other value value', alike item other →
      (base.Holds since fun pairing => related pairing value value') →
        InStep base since related (step value item) (step' value' other))
    {value : α} {value' : β}
    (hstart : base.Holds since fun pairing => related pairing value value') :
    InStep base since related (items.foldlM step value) (others.foldlM step' value') := by
  induction hitems generalizing since value value' with
  | nil => exact inStep_pure hstart
  | cons hitem _ ih =>
      rw [List.foldlM_cons, List.foldlM_cons]
      apply (h since _ _ value value' hitem hstart).bind
      intro later next next' _ hnext
      exact ih hnext

/-! Adding components. -/

theorem inStep_add (kind : SymbolKind) {component other : Component kind}
    (add : Component kind → Reading (Id kind))
    (hadd : ∀ component origin model,
      add component origin model = .ok (⟨model.size kind⟩, model.push component))
    (h : base.Holds since fun pairing => component.Matches pairing other) :
    InStep base since (fun pairing => pairing.id) (add component) (add other) := by
  intro origin origin' _ first second habreast hsince
  rw [hadd, hadd]
  refine .ok ⟨habreast.add (h.mono hsince), .push _ _, .push _ _, ?_⟩
  intro pairing hwithin
  apply hwithin.id
  have hsize := habreast.size_eq kind
  have hbase := habreast.prefix_first.size_le kind
  refine ⟨hbase, ?_, hsize⟩
  change first.size kind < (first.push component).size kind
  rw [Model.size_push_self]
  exact Nat.lt_succ_self _

theorem inStep_addType {type other : TypeDef}
    (h : base.Holds since fun pairing => type.Matches pairing other) :
    InStep base since (fun pairing => pairing.id) (addType type) (addType other) :=
  inStep_add .type addType (fun _ _ _ => rfl) h

theorem inStep_addElement {element other : ElementDecl}
    (h : base.Holds since fun pairing => element.Matches pairing other) :
    InStep base since (fun pairing => pairing.id) (addElement element) (addElement other) :=
  inStep_add .element addElement (fun _ _ _ => rfl) h

theorem inStep_addAttribute {declared other : AttributeDecl}
    (h : base.Holds since fun pairing => declared.Matches pairing other) :
    InStep base since (fun pairing => pairing.id) (addAttribute declared) (addAttribute other) :=
  inStep_add .attribute addAttribute (fun _ _ _ => rfl) h

theorem inStep_addAttributeGroup {group other : AttributeGroupDef}
    (h : base.Holds since fun pairing => group.Matches pairing other) :
    InStep base since (fun pairing => pairing.id) (addAttributeGroup group)
      (addAttributeGroup other) :=
  inStep_add .attributeGroup addAttributeGroup (fun _ _ _ => rfl) h

theorem inStep_addGroup {group other : GroupDef}
    (h : base.Holds since fun pairing => group.Matches pairing other) :
    InStep base since (fun pairing => pairing.id) (addGroup group) (addGroup other) :=
  inStep_add .group addGroup (fun _ _ _ => rfl) h

section

variable {element other : Xml.Element}

theorem inStep_spanOf (element other : Xml.Element) :
    InStep base since (fun pairing span span' => span.Matches pairing span') (spanOf element)
      (spanOf other) := by
  intro origin origin' horigin first second habreast hsince
  refine .ok ⟨habreast, .refl first, .refl second, ?_⟩
  intro pairing hwithin
  exact hwithin.document horigin.document

theorem inStep_read {next : Origin → Reading α} {next' : Origin → Reading β}
    (h : ∀ origin origin', Origin.Beside base origin origin' →
      InStep base since related (next origin) (next' origin')) :
    InStep base since related (read >>= next) (read >>= next') := by
  intro origin origin' horigin
  exact h origin origin' horigin origin origin' horigin

theorem inStep_placed (element other : Xml.Element) {build : Origin → Span → Reading α}
    {build' : Origin → Span → Reading β}
    (h : ∀ origin origin' span span', Origin.Beside base origin origin' →
      base.documents span.document span'.document →
        InStep base since related (build origin span) (build' origin' span')) :
    InStep base since related (do build (← read) (← spanOf element))
      (do build' (← read) (← spanOf other)) := by
  intro origin origin' horigin first second habreast hsince
  exact h origin origin' _ _ horigin horigin.document origin origin' horigin first second habreast
    hsince

theorem inStep_qualified? (h : element.Resembles base.terms other) {key : String}
    (hkey : key ∈ Xml.Element.nameKeys) :
    InStep base since equal (qualified? element key) (qualified? other key) := by
  rw [qualified?_eq, qualified?_eq, h.target key hkey]
  split
  · exact inStep_same none
  · apply (inStep_lift _).bind_eq
    intro _ name _
    exact inStep_same (some name)

theorem inStep_lifts (results : List (Except Error α)) :
    InStep base since equal (results.mapM fun result => liftM result)
      (results.mapM fun result => liftM result) := by
  induction results generalizing since with
  | nil => exact inStep_same []
  | cons result rest ih =>
      rw [List.mapM_cons]
      apply (inStep_lift result).bind_eq
      intro _ value _
      apply ih.bind_eq
      intro _ values _
      exact inStep_same (value :: values)

theorem inStep_eased (heased : base.terms.eased) (element : Xml.Element) (flaw : Flaw)
    (next : α → Reading γ) (other : Reading δ) :
    InStep base since fine (malformed element flaw >>= next) other := by
  intro origin origin' _ first second _ _
  exact .eased heased

theorem inStep_malformed (element other : Xml.Element) (flaw : Flaw) :
    InStep base since related (malformed element flaw) (malformed other flaw) := by
  intro origin origin' _ first second _ _
  exact .error (.malformed flaw _ _)

theorem inStep_expect_bind (element other : Xml.Element) (flaw : Flaw) {value? : Option α}
    {other? : Option β} {alike : α → β → Prop} (h : Option.Rel alike value? other?)
    {next : α → Reading γ} {next' : β → Reading δ}
    (hnext : ∀ value value', alike value value' →
      InStep base since fine (next value) (next' value')) :
    InStep base since fine (expect element flaw value? >>= next)
      (expect other flaw other? >>= next') := by
  cases h with
  | none =>
      intro origin origin' _ first second _ _
      exact .error (.malformed flaw _ _)
  | some hvalue => exact hnext _ _ hvalue

theorem inStep_expect (element other : Xml.Element) (flaw : Flaw) (value? : Option α) :
    InStep base since equal (expect element flaw value?) (expect other flaw value?) := by
  cases value? with
  | none => exact inStep_malformed element other flaw
  | some value => exact inStep_same value

variable (h : element.Resembles base.terms other)

include h

theorem inStep_required {key : String} (hkey : key ∉ "memberTypes" :: Xml.Element.nameKeys) :
    InStep base since equal (required element key) (required other key) := by
  rw [required, required, h.tag_eq, h.plain key hkey]
  exact inStep_expect element other _ _

theorem inStep_occursOf : InStep base since equal (occursOf element) (occursOf other) := by
  rw [occursOf, occursOf, h.plain "minOccurs" (by decide), h.plain "maxOccurs" (by decide)]
  split
  · exact inStep_same _
  · exact inStep_malformed element other _

theorem inStep_useOf : InStep base since equal (useOf element) (useOf other) := by
  rw [useOf, useOf, h.plain "use" (by decide)]
  split
  · exact inStep_same _
  · exact inStep_expect element other _ _

theorem isMixed_eq : isMixed element = isMixed other := by
  rw [isMixed, isMixed, h.plain "mixed" (by decide)]

theorem innerOwner_eq (owner : Option String) :
    innerOwner element owner = innerOwner other owner := by
  rw [innerOwner, innerOwner, h.plain "name" (by decide)]

theorem inStep_typeDef (owner : Option String) {body body' : TypeBody}
    (hbody : base.Holds since fun pairing => body.Matches pairing body') :
    InStep base since (fun pairing type type' => type.Matches pairing type')
      (typeDef element owner body) (typeDef other owner body') := by
  apply inStep_placed
  intro origin origin' span span' horigin hspan
  apply inStep_pure
  intro pairing hwithin
  exact {
    name := h.plain "name" (by decide)
    space := horigin.targetSpace
    owner := rfl
    documentation := fun hdocumented => h.documentation (hwithin.documented hdocumented)
    span := hwithin.document hspan
    body := hbody pairing hwithin }

end

end Reading

end SchemaBinding
