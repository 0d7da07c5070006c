import SchemaBinding.Proofs.Content.Derived
import SchemaBinding.Proofs.Loading.Layout
import SchemaBinding.Proofs.Loading.Single
import SchemaBinding.Proofs.Resolution.Cycle
import SchemaBinding.Proofs.Resolution.Fit
import SchemaBinding.Proofs.Resolution.Range

namespace SchemaBinding

open Relation (TransGen ReflTransGen)

variable {kind : SymbolKind}

namespace Resolving

variable {set : SchemaSet} {α : Type}

/-- From a memo, a question whose work is cut into levels follows a relation between components:
no number of levels cuts it short, what is known is answered or fails with what is there, and
there is an answer just where the relation leads to nothing but what is fit for one and into no
cycle. The cycles that are reported are cycles of the relation, unless they are failures of
something else. -/
structure Unwinds (set : SchemaSet) (memo : Memo) (needs : Id kind → Id kind → Prop)
    (fit : Id kind → Prop) (ask : Id kind → Resolving α) (within : Nat → Id kind → Resolving α)
    (foreign : Id kind → Error → Prop) : Prop where
  ends : ∀ levels id, set.model.size kind < levels →
    (within levels id).result memo = (ask id).result memo
  lands : ∀ id, set.Knows [⟨kind, id⟩] → Lands set.Shows (fun _ => True) ((ask id).result memo)
  answered_iff : ∀ id, HasValue ((ask id).result memo) ↔
    ∀ other, ReflTransGen needs id other → fit other ∧ ¬ TransGen needs other other
  reported : ∀ id names, (ask id).result memo = .error (.cyclic kind names) →
    (∃ ids, Circular needs ids ∧ (∀ other ∈ ids, ReflTransGen needs id other) ∧
        names = ids.map (set.label kind)) ∨
      ∃ other, ReflTransGen needs id other ∧ foreign other (.cyclic kind names)
  refused : ∀ id other ids, Circular needs ids → other ∈ ids → ReflTransGen needs id other →
    ∀ value, (ask id).result memo ≠ .ok value

theorem unwinds_of_rule {memo : Memo} (hmemo : memo.Settled set) (rule : Rule set kind α)
    {within : Nat → Id kind → Resolving α} (ask : Id kind → Resolving α)
    (hask : ∀ id, ask id = within (set.model.size kind + 1) id)
    (hwithin : ∀ levels id, set.model.size kind < levels →
      Agrees set {} (within levels id) (rule.answer id))
    (hlands : ∀ id, set.Knows [⟨kind, id⟩] → ∃ good, Lands set.Shows good (rule.answer id))
    {fit : Id kind → Prop} (hfit : rule.Suits fit) {own foreign : Id kind → Error → Prop}
    (hown : ∀ answer id, Raises (fun error => own id error ∨
      ∃ next, rule.Needs id next ∧ answer next = .error error) (rule.apply answer id))
    (hforeign : ∀ id names, own id (.cyclic kind names) → foreign id (.cyclic kind names)) :
    Unwinds set memo rule.Needs fit ask within foreign := by
  have hanswer : ∀ id, (ask id).result memo = rule.answer id := by
    intro id
    rw [hask]
    exact result_of_agrees hmemo (hwithin _ id (Nat.lt_succ_self _))
  constructor
  case ends =>
      intro levels id hlevels
      rw [hanswer, result_of_agrees hmemo (hwithin levels id hlevels)]
  case lands =>
      intro id hknown
      obtain ⟨good, hlands⟩ := hlands id hknown
      rw [hanswer]
      exact hlands.imp (fun _ hshows => hshows) fun _ _ => trivial
  case answered_iff =>
      intro id
      rw [hanswer]
      exact hfit.hasValue_answer_iff
  case reported =>
      intro id names herror
      rw [hanswer] at herror
      rcases Rule.error_of_answer hown herror with
        ⟨ids, hcircular, hreached, heq⟩ | ⟨other, hreached, hself⟩
      · cases heq
        exact .inl ⟨ids, hcircular, hreached, rfl⟩
      · exact .inr ⟨other, hreached, hforeign other names hself⟩
  case refused =>
      intro id other ids hcircular hmem hreach value
      rw [hanswer]
      exact Rule.answer_ne_ok_of_circular hcircular hmem hreach value

/-! The four recursions, within a number of levels. -/

variable (set)

def scalarWithin : Nat → TypeId → Resolving Scalar :=
  settleWithin set .scalars .scalars (Rules.scalar set)

def contentWithin : Nat → TypeId → Resolving Content :=
  settleWithin set .contents .contents fun content =>
    Rules.content set (answersWith set content)

def attributesWithin : Nat → AttributeGroupId → Resolving (List AttributeId) :=
  settleWithin set .attributeGroups .attributeGroups (Rules.attributes set)

def membersWithin : Nat → GroupId → Resolving (List Member) :=
  settleWithin set .groups .groups (Rules.members set (elementName set))

variable {set} {memo : Memo} {permissive : Bool} {layout : Layout}

theorem unwinds_scalar (hlaid : set.LaidOut permissive layout) (hmemo : memo.Settled set) :
    Unwinds set memo set.ScalarNeeds set.ScalarFit (typeScalar set) (scalarWithin set)
      fun _ _ => False := by
  apply unwinds_of_rule hmemo set.scalarRule (typeScalar set) (fun _ => rfl)
    (fun _ id hlevels => agrees_scalarLevels rfl hlevels id) ?_ set.suits_scalarRule
    set.raises_scalarRule
  · intro id names hplain
    cases hplain
  · exact fun id hknown => ⟨_, hlaid.lands_meaning (.scalarOf (.simple id)) hknown⟩

theorem unwinds_attributes (hlaid : set.LaidOut permissive layout) (hmemo : memo.Settled set) :
    Unwinds set memo set.AttributesNeed set.AttributesFit (expandAttributeGroup set)
      (attributesWithin set) fun _ _ => False := by
  apply unwinds_of_rule hmemo set.attributesRule (expandAttributeGroup set) (fun _ => rfl)
    (fun _ id hlevels => agrees_attributesLevels rfl hlevels id) ?_ set.suits_attributesRule
    set.raises_attributesRule
  · intro id names hplain
    cases hplain
  · exact fun id hknown => ⟨_, hlaid.lands_meaning (.attributeGroup id) hknown⟩

theorem unwinds_members (hlaid : set.LaidOut permissive layout) (hmemo : memo.Settled set) :
    Unwinds set memo set.MembersNeed set.MembersFit (expandGroup set) (membersWithin set)
      fun _ _ => False := by
  apply unwinds_of_rule hmemo set.membersRule (expandGroup set) (fun _ => rfl)
    (fun _ id hlevels => agrees_membersLevels rfl hlevels id) ?_ set.suits_membersRule
    set.raises_membersRule
  · intro id names hself
    rcases hself with hplain | helement
    · cases hplain
    · cases helement
  · exact fun id hknown => ⟨_, hlaid.lands_meaning (.group id) hknown⟩

theorem unwinds_content (hlaid : set.LaidOut permissive layout) (hmemo : memo.Settled set) :
    Unwinds set memo set.ContentNeeds set.ContentFit (contentOf set) (contentWithin set)
      fun id error => (typeScalar set id).result memo = .error error := by
  apply unwinds_of_rule hmemo set.contentRule (contentOf set) (fun _ => rfl)
    (fun _ id hlevels => agrees_contentLevels ⟨rfl, rfl, rfl⟩ rfl hlevels id) ?_
    set.suits_contentRule set.raises_contentRule
  · intro id names hself
    rw [result_of_agrees hmemo (agrees_typeScalar rfl id)]
    exact hself.resolve_left fun hother => hother rfl
  · exact fun id hknown => ⟨_, hlaid.lands_meaning (.content id) hknown⟩

/-- Two sets need the same of the same, and answer the four questions alike from a memo each. -/
structure SameRecursions (first second : SchemaSet) (memo other : Memo) : Prop where
  scalarNeeds : first.ScalarNeeds = second.ScalarNeeds
  contentNeeds : first.ContentNeeds = second.ContentNeeds
  attributesNeed : first.AttributesNeed = second.AttributesNeed
  membersNeed : first.MembersNeed = second.MembersNeed
  scalar : ∀ id, (typeScalar first id).result memo = (typeScalar second id).result other
  content : ∀ id, (contentOf first id).result memo = (contentOf second id).result other
  attributes : ∀ id, (expandAttributeGroup first id).result memo =
    (expandAttributeGroup second id).result other
  members : ∀ id, (expandGroup first id).result memo = (expandGroup second id).result other

theorem sameRecursions_retyped (elementType attributeType : Nat → Option TypeRef)
    {memo other : Memo} (hmemo : memo.Settled (set.retyped elementType attributeType))
    (hother : other.Settled set) :
    SameRecursions (set.retyped elementType attributeType) set memo other where
  scalarNeeds := SchemaSet.scalarNeeds_retyped
  contentNeeds := SchemaSet.contentNeeds_retyped
  attributesNeed := SchemaSet.attributesNeed_retyped
  membersNeed := SchemaSet.membersNeed_retyped
  scalar id := by
    rw [result_of_agrees hmemo (agrees_typeScalar rfl id),
      result_of_agrees hother (agrees_typeScalar rfl id), SchemaSet.scalar_answer_retyped]
  content id := by
    rw [result_of_agrees hmemo (agrees_contentOf ⟨rfl, rfl, rfl⟩ rfl id),
      result_of_agrees hother (agrees_contentOf ⟨rfl, rfl, rfl⟩ rfl id),
      SchemaSet.content_answer_retyped]
  attributes id := by
    rw [result_of_agrees hmemo (agrees_expandAttributeGroup rfl id),
      result_of_agrees hother (agrees_expandAttributeGroup rfl id),
      SchemaSet.attributes_answer_retyped]
  members id := by
    rw [result_of_agrees hmemo (agrees_expandGroup rfl id),
      result_of_agrees hother (agrees_expandGroup rfl id), SchemaSet.members_answer_retyped]

/-- Whatever was asked before of a loaded set, the four recursions end: they answer for exactly
what leads to nothing unfit and into no cycle, and report cycles of their own relations. What a
list holds and what a restriction of complex content restricts is not needed, and which types
elements and attributes have changes no answer. -/
theorem cycles_exact {tree : FileTree} {roots : List Path} {limits : Limits} {permissive : Bool}
    {set : SchemaSet} (hload : SchemaSet.load tree roots limits permissive = .ok set)
    (history : List Query) :
    Unwinds set (Memo.after set history) set.ScalarNeeds set.ScalarFit (typeScalar set)
        (scalarWithin set) (fun _ _ => False) ∧
      Unwinds set (Memo.after set history) set.ContentNeeds set.ContentFit (contentOf set)
        (contentWithin set)
        (fun id error => (typeScalar set id).result (Memo.after set history) = .error error) ∧
      Unwinds set (Memo.after set history) set.AttributesNeed set.AttributesFit
        (expandAttributeGroup set) (attributesWithin set) (fun _ _ => False) ∧
      Unwinds set (Memo.after set history) set.MembersNeed set.MembersFit (expandGroup set)
        (membersWithin set) (fun _ _ => False) ∧
      (∀ id type item next, set.typeDef id = .ok type → type.body = .simple (.list item) →
        ¬ set.ScalarNeeds id next) ∧
      (∀ id type derivation mixed next, set.typeDef id = .ok type →
        type.body = .complex (.complex derivation) mixed → derivation.method = .restriction →
          ¬ set.ContentNeeds id next) ∧
      ∀ elementType attributeType others,
        SameRecursions (set.retyped elementType attributeType) set
          (Memo.after (set.retyped elementType attributeType) others) (Memo.after set history) := by
  obtain ⟨layout, hlaid⟩ := SchemaSet.exists_layout_of_load hload
  have hmemo := Memo.settled_after set history
  refine ⟨unwinds_scalar hlaid hmemo, unwinds_content hlaid hmemo, unwinds_attributes hlaid hmemo,
    unwinds_members hlaid hmemo, ?_, ?_, ?_⟩
  · intro id type item next htype hbody
    exact SchemaSet.not_scalarNeeds_of_list htype hbody next
  · intro id type derivation mixed next htype hbody hmethod
    exact SchemaSet.not_contentNeeds_of_restriction htype hbody hmethod next
  · intro elementType attributeType others
    exact sameRecursions_retyped elementType attributeType (Memo.settled_after _ others) hmemo

end Resolving

/-- A type has no content while its extended base has none. -/
theorem SchemaSet.Extends.answerFrom_error {set : SchemaSet} {id base : TypeId} {error : Error}
    (h : set.Extends id base) {unfinished : List TypeId} (hnew : id ∉ unfinished)
    (herror : set.contentRule.answerFrom (id :: unfinished) base = .error error) :
    set.contentRule.answerFrom unfinished id = .error error := by
  obtain ⟨type, derivation, mixed, htype, hbody, hmethod, hbase⟩ := h
  rw [Rule.answerFrom_of_not_mem hnew]
  change Rules.content set (set.answersWith _) id = .error error
  rw [Rules.content, given_eq]
  refine bind_eq_error_iff.mpr (.inr ⟨type, htype, ?_⟩)
  simp only [Rules.bodyContent, hbody, Rules.complexContent, given_eq]
  refine bind_eq_error_iff.mpr (.inr ⟨.complex base, hbase, bind_eq_error_iff.mpr (.inl ?_)⟩)
  simp only [Rules.contentStart, hmethod]
  exact bind_eq_error_iff.mpr (.inl herror)

/-! A node may hold a node, and a list items of its own type, but types that extend each other have
no content. -/

namespace Recursive

def text : String :=
  "<xs:schema xmlns:xs=\"http://www.w3.org/2001/XMLSchema\">" ++
    "<xs:complexType name=\"Node\"><xs:sequence>" ++
    "<xs:element name=\"next\" type=\"Node\" minOccurs=\"0\"/></xs:sequence></xs:complexType>" ++
    "<xs:simpleType name=\"Items\"><xs:list itemType=\"Items\"/></xs:simpleType>" ++
    "<xs:complexType name=\"First\"><xs:complexContent><xs:extension base=\"Second\"/>" ++
    "</xs:complexContent></xs:complexType>" ++
    "<xs:complexType name=\"Second\"><xs:complexContent><xs:extension base=\"First\"/>" ++
    "</xs:complexContent></xs:complexType></xs:schema>"

def tree : FileTree :=
  ⟨[(⟨.above 0, ["a.xsd"]⟩, .file (.text text))]⟩

def root : Path := ⟨"a.xsd"⟩

def node : TypeId := ⟨0⟩

def items : TypeId := ⟨1⟩

def first : TypeId := ⟨2⟩

def second : TypeId := ⟨3⟩

def next : ElementId := ⟨0⟩

def nodeContent : Content where
  members := [⟨"Next", .declaredElement next ⟨false, false⟩⟩]
  fieldNames := ["Next"]

def targetOfElement? (set : SchemaSet) (id : ElementId) : Option TypeTarget := do
  let target ← (set.targetOf .element id).toOption
  set.nearTarget? target.span (← target.type)

def targetOfItems? (set : SchemaSet) (id : TypeId) : Option TypeTarget := do
  let type ← (set.typeDef id).toOption
  match type.body with
  | .simple (.list item) => set.nearTarget? type.span item
  | _ => none

def Known (set : SchemaSet) : Prop :=
  targetOfElement? set next = some (.complex node) ∧
    targetOfItems? set items = some (.simple items) ∧
    (set.answers.content node).toOption = some nodeContent ∧
    set.nearExtended? first = some second ∧ set.nearExtended? second = some first ∧
    [first, second].map (set.label .type) = ["First", "Second"]

instance : DecidablePred Known := fun _ =>
  inferInstanceAs (Decidable (_ ∧ _))

theorem exists_load : ∃ set, SchemaSet.load tree [root] .strict false = .ok set ∧ Known set := by
  refine SchemaSet.exists_load_single ?_ ?_ ?_ <;> decide +kernel

namespace Known

variable {set : SchemaSet} (h : Known set)

include h

theorem circular : Circular set.ContentNeeds [first, second, first] := by
  obtain ⟨_, _, _, hfirst, hsecond, _⟩ := h
  have hforth := (SchemaSet.extends_of_nearExtended? hfirst).needs
  have hback := (SchemaSet.extends_of_nearExtended? hsecond).needs
  exact ⟨by decide, rfl, .cons_cons hforth (.cons_cons hback (.singleton first))⟩

theorem content_first :
    set.answers.content first = .error (.cyclic .type ["First", "Second", "First"]) := by
  obtain ⟨_, _, _, hfirst, hsecond, hlabels⟩ := h
  obtain ⟨hone, htwo⟩ : set.label .type first = "First" ∧ set.label .type second = "Second" := by
    simpa using hlabels
  have hback : set.contentRule.answerFrom [first] second =
      .error (set.cycle .type [second, first] first) :=
    (SchemaSet.extends_of_nearExtended? hsecond).answerFrom_error (by decide)
      (Rule.answerFrom_of_mem (by decide))
  have hcycle : chain [second, first] first = [first, second, first] := by decide
  have herror := (SchemaSet.extends_of_nearExtended? hfirst).answerFrom_error (by decide) hback
  rw [SchemaSet.cycle, hcycle, List.map_cons, List.map_cons, List.map_cons, hone, htwo] at herror
  exact herror

theorem elementType_next : set.answers.elementType next = .ok (.complex node) := by
  obtain ⟨target, htarget, hnear⟩ := Option.bind_eq_some_iff.mp h.1
  obtain ⟨reference, hreference, hnear⟩ := Option.bind_eq_some_iff.mp hnear
  change set.typeOf .element next = .ok (.complex node)
  refine bind_eq_ok_iff.mpr ⟨target, eq_ok_of_toOption htarget, ?_⟩
  rw [SchemaSet.targetType, hreference]
  exact SchemaSet.resolveTypeRef_of_nearTarget? hnear

theorem exists_list : ∃ type item, set.typeDef items = .ok type ∧
    type.body = .simple (.list item) ∧ set.ScalarFit items := by
  obtain ⟨type, htype, hnear⟩ := Option.bind_eq_some_iff.mp h.2.1
  have htype := eq_ok_of_toOption htype
  split at hnear
  case h_1 item hbody =>
      refine ⟨type, item, htype, hbody, type, htype, ?_⟩
      rw [SchemaSet.BodyFit, hbody]
      exact ⟨_, SchemaSet.resolveTypeRef_of_nearTarget? hnear⟩
  case h_2 => cases hnear

end Known

end Recursive

open Recursive

/-- An element inside its own type is accepted, also after the question that ran into a cycle. -/
theorem Resolving.cycles_exact_node :
    ∃ set, SchemaSet.load tree [root] .strict false = .ok set ∧
      Circular set.ContentNeeds [first, second, first] ∧
      (contentOf set first).result {} = .error (.cyclic .type ["First", "Second", "First"]) ∧
      (∀ value, (contentOf set first).result (Memo.after set [.content first]) ≠ .ok value) ∧
      (elementType set next).result (Memo.after set [.content first]) = .ok (.complex node) ∧
      (contentOf set node).result (Memo.after set [.content first]) = .ok nodeContent ∧
      ¬ TransGen set.ContentNeeds node node ∧
      HasValue ((typeScalar set items).result (Memo.after set [.content first])) := by
  obtain ⟨set, hload, hknown⟩ := exists_load
  have hcircular := hknown.circular
  have hmemo := Memo.settled_after set [.content first]
  obtain ⟨hscalars, hcontents, _, _, hlists, _⟩ := cycles_exact hload [.content first]
  have hnode : (contentOf set node).result (Memo.after set [.content first]) = .ok nodeContent :=
    (result_of_agrees hmemo (agrees_content set node)).trans (eq_ok_of_toOption hknown.2.2.1)
  refine ⟨set, hload, hcircular, ?_, ?_, ?_, hnode, ?_, ?_⟩
  · exact (result_of_agrees (Memo.settled_empty set) (agrees_content set first)).trans
      hknown.content_first
  · exact hcontents.refused first first _ hcircular List.mem_cons_self .refl
  · exact (result_of_agrees hmemo (agrees_elementType set {} next)).trans hknown.elementType_next
  · exact ((hcontents.answered_iff node).mp ⟨_, hnode⟩ node .refl).2
  · obtain ⟨type, item, htype, hbody, hfit⟩ := hknown.exists_list
    have hfree : ∀ next, ¬ set.ScalarNeeds items next := fun next =>
      hlists items type item next htype hbody
    refine (hscalars.answered_iff items).mpr fun other hreach => ?_
    rcases ReflTransGen.cases_head hreach with rfl | ⟨next, hneeds, _⟩
    · refine ⟨hfit, fun hself => ?_⟩
      obtain ⟨next, hneeds, _⟩ := TransGen.head'_iff.mp hself
      exact hfree next hneeds
    · exact absurd hneeds (hfree next)

end SchemaBinding
