import SchemaBinding.Proofs.Resolution.Rules
import SchemaBinding.Proofs.SchemaSet.Preorder

namespace SchemaBinding

def Declaration.retype (type : Option TypeRef) : Declaration → Declaration
  | .named name _ => .named name type
  | .reference target => .reference target

namespace SchemaSet

/-- The set with other types of elements and attributes, by number. -/
def retyped (set : SchemaSet) (elementType attributeType : Nat → Option TypeRef) : SchemaSet :=
  { set with
    model := { set.model with
      elements := set.model.elements.mapIdx fun index element =>
        { element with declaration := element.declaration.retype (elementType index) }
      attributes := set.model.attributes.mapIdx fun index declared =>
        { declared with declaration := declared.declaration.retype (attributeType index) } } }

variable {set : SchemaSet} {elementType attributeType : Nat → Option TypeRef}

theorem resolve_withModel (set : SchemaSet) (model : Model) (kind : SymbolKind) (name : QName)
    (span : Span) :
    ({ set with model := model } : SchemaSet).resolve kind name span =
      set.resolve kind name span := by
  have hvisible : ({ set with model := model } : SchemaSet).visible span.document =
      set.visible span.document := by
    rw [visible, visible, walk_eq]
    intro id
    change Option.Rel _ (set.document? id) (set.document? id)
    cases set.document? id with
    | none => exact .none
    | some document => exact .some rfl
  rw [resolve, lookup?, hvisible]
  rfl

theorem resolve_retyped (kind : SymbolKind) (name : QName) (span : Span) :
    (set.retyped elementType attributeType).resolve kind name span =
      set.resolve kind name span :=
  set.resolve_withModel _ kind name span

theorem resolveTypeName_retyped (name : QName) (span : Span) :
    (set.retyped elementType attributeType).resolveTypeName name span =
      set.resolveTypeName name span := by
  rw [resolveTypeName, resolve_retyped]
  rfl

theorem resolveTypeRef_retyped (reference : TypeRef) (span : Span) :
    (set.retyped elementType attributeType).resolveTypeRef reference span =
      set.resolveTypeRef reference span := by
  cases reference with
  | named name => exact resolveTypeName_retyped name span
  | inline id => rfl

theorem contentBase_retyped (derivation : Derivation) :
    Rules.contentBase (set.retyped elementType attributeType) derivation =
      Rules.contentBase set derivation := by
  unfold Rules.contentBase
  rw [resolveTypeName_retyped]
  rfl

/-! What is needed. -/

theorem scalarNeeds_retyped :
    (set.retyped elementType attributeType).ScalarNeeds = set.ScalarNeeds := by
  have hsources : ∀ type, (set.retyped elementType attributeType).scalarSources type =
      set.scalarSources type := by
    intro type
    unfold scalarSources
    simp only [resolveTypeRef_retyped, contentBase_retyped]
  funext id next
  simp only [ScalarNeeds, hsources]
  rfl

theorem contentNeeds_retyped :
    (set.retyped elementType attributeType).ContentNeeds = set.ContentNeeds := by
  funext id next
  simp only [ContentNeeds, resolveTypeName_retyped]
  rfl

theorem attributesNeed_retyped :
    (set.retyped elementType attributeType).AttributesNeed = set.AttributesNeed := by
  funext id next
  simp only [AttributesNeed, resolve_retyped]
  rfl

theorem membersNeed_retyped :
    (set.retyped elementType attributeType).MembersNeed = set.MembersNeed := by
  funext id next
  simp only [MembersNeed, resolve_retyped]
  rfl

theorem declared?_retyped (set : SchemaSet) (elementType attributeType : Nat → Option TypeRef)
    (kind : SymbolKind) (id : Id kind) :
    ∃ type : Option TypeRef, (set.retyped elementType attributeType).declared? kind id =
      (set.declared? kind id).map fun found =>
        { found with declaration := found.declaration.retype type } := by
  cases kind with
  | element =>
      refine ⟨elementType id.index, ?_⟩
      simp [declared?, retyped, Model.element?]
      rfl
  | «attribute» =>
      refine ⟨attributeType id.index, ?_⟩
      simp [declared?, retyped, Model.attribute?]
      rfl
  | type => exact ⟨none, rfl⟩
  | attributeGroup => exact ⟨none, rfl⟩
  | group => exact ⟨none, rfl⟩

theorem declarationLabel_retyped (kind : SymbolKind) :
    (set.retyped elementType attributeType).declarationLabel kind =
      set.declarationLabel kind := by
  funext id
  obtain ⟨type, htype⟩ := declared?_retyped set elementType attributeType kind id
  rw [declarationLabel, declarationLabel, htype]
  cases set.declared? kind id with
  | none => rfl
  | some found =>
      obtain ⟨declaration, documentation, span⟩ := found
      cases declaration <;> rfl

theorem target_retyped (kind : SymbolKind) (passed : List (Id kind)) (id : Id kind) :
    ((set.retyped elementType attributeType).target kind passed id).map Target.name =
      (set.target kind passed id).map Target.name := by
  induction hroom : set.unlisted kind passed using Nat.strongRecOn generalizing passed id with
  | _ room ih =>
      obtain ⟨type, htype⟩ := declared?_retyped set elementType attributeType kind id
      rw [target_eq, target_eq, htype, declarationLabel_retyped]
      split
      · rfl
      · rename_i hnew
        cases hfound : set.declared? kind id with
        | none => rfl
        | some found =>
            cases hdeclaration : found.declaration with
            | named name type => simp [hdeclaration, Declaration.retype, Except.map]
            | reference name =>
                simp only [Option.map_some, hdeclaration, Declaration.retype, resolve_retyped]
                cases hresolve : set.resolve kind name found.span with
                | error error => rfl
                | ok next =>
                    have hless := unlisted_cons_lt (index_lt_of_declared? hfound) hnew
                    exact ih _ (hroom ▸ hless) (id :: passed) next rfl

theorem nameOf_retyped (kind : SymbolKind) :
    (set.retyped elementType attributeType).nameOf kind = set.nameOf kind := by
  funext id
  exact target_retyped kind [] id

theorem attributeDecl_retyped (id : AttributeId) :
    (set.retyped elementType attributeType).attributeDecl id =
      (set.attributeDecl id).map fun declared =>
        { declared with
          declaration := declared.declaration.retype (attributeType id.index) } := by
  unfold attributeDecl retyped Model.attribute?
  simp only [Array.getElem?_mapIdx]
  cases set.model.attributes[id.index]? <;> rfl

end SchemaSet

namespace Rules

open SchemaSet

variable {set : SchemaSet} {elementType attributeType : Nat → Option TypeRef}

theorem unionScalar_retyped (scalar : TypeId → Except Error Scalar) (span : Span)
    (known : Option Scalar) (members : List TypeRef) :
    unionScalar (set.retyped elementType attributeType) scalar span known members =
      unionScalar set scalar span known members := by
  induction members generalizing known with
  | nil => rfl
  | cons member rest ih => simp only [unionScalar, resolveTypeRef_retyped, ih]

theorem scalar_retyped (scalar : TypeId → Except Error Scalar) :
    Rules.scalar (set.retyped elementType attributeType) scalar = Rules.scalar set scalar := by
  have hsimple : ∀ span derivation,
      simpleScalar (set.retyped elementType attributeType) scalar span derivation =
        simpleScalar set scalar span derivation := by
    intro span derivation
    cases derivation <;>
      simp only [simpleScalar, resolveTypeRef_retyped, unionScalar_retyped]
  funext id
  unfold Rules.scalar bodyScalar
  simp only [hsimple, contentBase_retyped]
  rfl

theorem expandItems_retyped (attributes : AttributeGroupId → Except Error (List AttributeId))
    (items : List AttributeItem) :
    expandItems (set.retyped elementType attributeType) attributes items =
      expandItems set attributes items := by
  induction items with
  | nil => rfl
  | cons item rest ih =>
      have hitem : attributesAt (set.retyped elementType attributeType) attributes item =
          attributesAt set attributes item := by
        cases item <;> simp only [attributesAt, resolve_retyped]
      rw [expandItems, expandItems, hitem, ih]

theorem attributes_retyped (attributes : AttributeGroupId → Except Error (List AttributeId)) :
    Rules.attributes (set.retyped elementType attributeType) attributes =
      Rules.attributes set attributes := by
  funext id
  unfold Rules.attributes
  simp only [expandItems_retyped]
  rfl

section

variable (name : ElementId → Except Error String)
  (members : GroupId → Except Error (List Member))

mutual

theorem expandWith_retyped (context : ParticleContext) : (particle : Particle) →
    expandWith (set.retyped elementType attributeType) name members context particle =
      expandWith set name members context particle
  | .element id => by rw [expandWith, expandWith]
  | .model type occurs particles => by
      rw [expandWith, expandWith]
      exact expandAllWith_retyped (context.within type occurs) particles
  | .group use occurs => by rw [expandWith, expandWith, resolve_retyped]

theorem expandAllWith_retyped (context : ParticleContext) : (particles : List Particle) →
    expandAllWith (set.retyped elementType attributeType) name members context particles =
      expandAllWith set name members context particles
  | [] => by rw [expandAllWith, expandAllWith]
  | particle :: rest => by
      rw [expandAllWith, expandAllWith, expandWith_retyped context particle,
        expandAllWith_retyped context rest]

end

theorem members_retyped :
    Rules.members (set.retyped elementType attributeType) name members =
      Rules.members set name members := by
  funext id
  unfold Rules.members
  simp only [expandWith_retyped]
  rfl

end

/-- Answers that contents are made of alike. -/
structure SameParts (other answers : Answers (Except Error)) : Prop where
  elementName : other.elementName = answers.elementName
  attributeName : other.attributeName = answers.attributeName
  scalar : other.scalar = answers.scalar
  content : other.content = answers.content
  attributes : other.attributes = answers.attributes
  members : other.members = answers.members

variable {other answers : Answers (Except Error)}

theorem attributeMember?_retyped (h : SameParts other answers) (id : AttributeId) :
    attributeMember? (set.retyped elementType attributeType) other id =
      attributeMember? set answers id := by
  simp only [attributeMember?, given_eq, h.attributeName, attributeDecl_retyped]
  cases set.attributeDecl id <;> rfl

theorem attributeMembers_retyped (h : SameParts other answers) (ids : List AttributeId) :
    attributeMembers (set.retyped elementType attributeType) other ids =
      attributeMembers set answers ids := by
  induction ids with
  | nil => rfl
  | cons id rest ih => simp only [attributeMembers, attributeMember?_retyped h, ih]

theorem ownMembers_retyped (h : SameParts other answers) (container : Container) :
    ownMembers (set.retyped elementType attributeType) other container =
      ownMembers set answers container := by
  simp only [ownMembers, expandItems_retyped, attributeMembers_retyped h, expandWith_retyped,
    h.attributes, h.elementName, h.members]

theorem content_retyped (h : SameParts other answers) (id : TypeId) :
    Rules.content (set.retyped elementType attributeType) other id =
      Rules.content set answers id := by
  have hflattened : ∀ target, flattenedMembers other target = flattenedMembers answers target := by
    intro target
    cases target <;> simp only [flattenedMembers, h.content]
  have hextended : ∀ derivation target,
      extended (set.retyped elementType attributeType) other derivation target =
        extended set answers derivation target := by
    intro derivation target
    cases target <;> simp only [extended, h.content] <;> rfl
  unfold Rules.content bodyContent simpleContent complexContent contentStart
  simp only [ownMembers_retyped h, resolveTypeName_retyped, h.scalar, hflattened, hextended]
  rfl

end Rules

theorem Rule.answer_congr {first second : SchemaSet} {kind : SymbolKind} {α : Type}
    (rule : Rule first kind α) (other : Rule second kind α)
    (hlabel : first.label kind = second.label kind)
    (happly : rule.apply = other.apply) : rule.answer = other.answer := by
  have hall : ∀ unfinished id, rule.answerFrom unfinished id = other.answerFrom unfinished id := by
    intro unfinished
    induction hroom : first.unlisted kind unfinished using Nat.strongRecOn
      generalizing unfinished with
    | _ room ih =>
        intro id
        by_cases hopen : id ∈ unfinished
        · rw [answerFrom_of_mem hopen, answerFrom_of_mem hopen, SchemaSet.cycle, SchemaSet.cycle,
            hlabel]
        · rw [answerFrom_of_not_mem hopen, answerFrom_of_not_mem hopen, ← happly]
          apply rule.congr
          intro next hneeds
          have hless := SchemaSet.unlisted_cons_lt (rule.index_lt hneeds) hopen
          exact ih _ (hroom ▸ hless) (id :: unfinished) rfl next
  funext id
  exact hall [] id

namespace SchemaSet

variable (set : SchemaSet) (elementType attributeType : Nat → Option TypeRef)

theorem scalar_answer_retyped :
    (set.retyped elementType attributeType).answers.scalar = set.answers.scalar := by
  apply Rule.answer_congr (set.retyped elementType attributeType).scalarRule set.scalarRule rfl
  funext answer
  exact Rules.scalar_retyped answer

theorem attributes_answer_retyped :
    (set.retyped elementType attributeType).answers.attributes = set.answers.attributes := by
  apply Rule.answer_congr (set.retyped elementType attributeType).attributesRule
    set.attributesRule rfl
  funext answer
  exact Rules.attributes_retyped answer

theorem members_answer_retyped :
    (set.retyped elementType attributeType).answers.members = set.answers.members := by
  apply Rule.answer_congr (set.retyped elementType attributeType).membersRule set.membersRule rfl
  funext answer
  have hname : (set.retyped elementType attributeType).elementName = set.elementName :=
    nameOf_retyped .element
  change Rules.members _ (set.retyped elementType attributeType).elementName answer = _
  rw [hname]
  exact Rules.members_retyped set.elementName answer

theorem content_answer_retyped :
    (set.retyped elementType attributeType).answers.content = set.answers.content := by
  apply Rule.answer_congr (set.retyped elementType attributeType).contentRule set.contentRule rfl
  funext answer id
  apply Rules.content_retyped
  constructor
  · exact nameOf_retyped .element
  · exact nameOf_retyped .attribute
  · exact scalar_answer_retyped set elementType attributeType
  · rfl
  · exact attributes_answer_retyped set elementType attributeType
  · exact members_answer_retyped set elementType attributeType

end SchemaSet

end SchemaBinding
