import Mathlib.Data.List.Chain
import SchemaBinding.Proofs.Resolution.Query
import SchemaBinding.Proofs.Resolution.Raised
import SchemaBinding.Proofs.Resolution.Retyped

namespace SchemaBinding

open Relation (TransGen ReflTransGen)

variable {kind : SymbolKind}

/-- Components each of which needs the next, from one back to itself. -/
structure Circular (needs : Id kind → Id kind → Prop) (ids : List (Id kind)) : Prop where
  long : 2 ≤ ids.length
  closed : ids.head? = ids.getLast?
  linked : ids.IsChain needs

theorem ReflTransGen.of_pairwise {needs : Id kind → Id kind → Prop} {ids : List (Id kind)}
    (h : ids.Pairwise (TransGen needs)) {id last : Id kind} (hmem : id ∈ ids)
    (hlast : ids.getLast? = some last) : ReflTransGen needs id last := by
  obtain ⟨front, rfl⟩ := List.getLast?_eq_some_iff.mp hlast
  rcases List.mem_append.mp hmem with hfront | heq
  · exact ((List.pairwise_append.mp h).2.2 id hfront last List.mem_cons_self).to_reflTransGen
  · cases List.mem_singleton.mp heq
    exact .refl

/-- Every component of a cycle leads to one that needs itself. -/
theorem Circular.exists_transGen {needs : Id kind → Id kind → Prop} {ids : List (Id kind)}
    (h : Circular needs ids) {id : Id kind} (hmem : id ∈ ids) :
    ∃ last, ReflTransGen needs id last ∧ TransGen needs last last := by
  have hpairs : ids.Pairwise (TransGen needs) :=
    List.isChain_iff_pairwise.mp (h.linked.imp fun _ _ => TransGen.single)
  cases ids with
  | nil => cases hmem
  | cons first rest =>
      have hlast : (first :: rest).getLast? = some first := h.closed.symm
      refine ⟨first, ReflTransGen.of_pairwise hpairs hmem hlast, ?_⟩
      cases rest with
      | nil => exact absurd h.long (by simp)
      | cons second others =>
          have hmem : first ∈ second :: others := by
            rw [List.getLast?_cons_cons] at hlast
            exact List.mem_of_getLast? hlast
          exact (List.pairwise_cons.mp hpairs).1 first hmem

theorem exists_dropWhile_ne {id : Id kind} {ids : List (Id kind)} (h : id ∈ ids) :
    ∃ rest, ids.dropWhile (· != id) = id :: rest := by
  induction ids with
  | nil => cases h
  | cons first others ih =>
      by_cases heq : first = id
      · subst heq
        exact ⟨others, by simp⟩
      · rw [List.dropWhile_cons_of_pos (by simpa using heq)]
        exact ih ((List.mem_cons.mp h).resolve_left (Ne.symm heq))

/-- When what is unfinished needs, one after another, what is asked for, the chain back to it is
a cycle. -/
theorem circular_chain {needs : Id kind → Id kind → Prop} {unfinished : List (Id kind)}
    {id : Id kind} (hmem : id ∈ unfinished)
    (hlinked : (id :: unfinished).IsChain fun next other => needs other next) :
    Circular needs (chain unfinished id) := by
  obtain ⟨rest, hrest⟩ := exists_dropWhile_ne (List.mem_reverse.mpr hmem)
  have hchain : chain unfinished id = id :: rest ++ [id] := by rw [chain, hrest]
  constructor
  · simp [hchain]
  · rw [hchain, List.getLast?_concat]
    rfl
  · have hall : (unfinished.reverse ++ [id]).IsChain needs := by
      rw [← List.reverse_cons]
      exact List.isChain_reverse.mpr hlinked
    apply hall.suffix
    obtain ⟨front, hfront⟩ := List.dropWhile_suffix (l := unfinished.reverse) (· != id)
    exact ⟨front, by rw [chain, ← List.append_assoc, hfront]⟩

theorem mem_of_mem_chain {unfinished : List (Id kind)} {id other : Id kind}
    (h : other ∈ chain unfinished id) : other ∈ unfinished ∨ other = id := by
  rcases List.mem_append.mp h with hdropped | hlast
  · exact .inl (List.mem_reverse.mp ((List.dropWhile_suffix _).mem hdropped))
  · exact .inr (List.mem_singleton.mp hlast)

namespace Rule

variable {set : SchemaSet} {α : Type} {rule : Rule set kind α}

/-- A failure is a cycle that was come upon, or that of a component by itself. -/
theorem error_of_answerFrom {own : Id kind → Error → Prop}
    (hown : ∀ answer id, Raises (fun error => own id error ∨
      ∃ next, rule.Needs id next ∧ answer next = .error error) (rule.apply answer id))
    {start : Id kind} {unfinished : List (Id kind)} {id : Id kind} {error : Error}
    (h : rule.answerFrom unfinished id = .error error)
    (hlinked : (id :: unfinished).IsChain fun next other => rule.Needs other next)
    (hreached : ∀ other ∈ id :: unfinished, ReflTransGen rule.Needs start other) :
    (∃ ids, Circular rule.Needs ids ∧ (∀ other ∈ ids, ReflTransGen rule.Needs start other) ∧
        error = .cyclic kind (ids.map (set.label kind))) ∨
      ∃ other, ReflTransGen rule.Needs start other ∧ own other error := by
  -- by induction on what is not unfinished yet; the unfinished ones stay linked from the start on
  induction hroom : set.unlisted kind unfinished using Nat.strongRecOn
    generalizing unfinished id with
  | _ room ih =>
      by_cases hopen : id ∈ unfinished
      · rw [answerFrom_of_mem hopen] at h
        left
        refine ⟨chain unfinished id, circular_chain hopen hlinked, ?_, (Except.error.inj h).symm⟩
        intro other hother
        apply hreached
        rcases mem_of_mem_chain hother with hmem | rfl
        · exact List.mem_cons_of_mem id hmem
        · exact List.mem_cons_self
      · rw [answerFrom_of_not_mem hopen] at h
        rcases hown _ id error h with hself | ⟨next, hneeds, hnext⟩
        · exact .inr ⟨id, hreached id List.mem_cons_self, hself⟩
        · have hless := SchemaSet.unlisted_cons_lt (rule.index_lt hneeds) hopen
          apply ih _ (hroom ▸ hless) hnext _ _ rfl
          · exact hlinked.cons_cons hneeds
          · intro other hother
            rcases List.mem_cons.mp hother with rfl | hmem
            · exact (hreached id List.mem_cons_self).tail hneeds
            · exact hreached other hmem

theorem error_of_answer {own : Id kind → Error → Prop}
    (hown : ∀ answer id, Raises (fun error => own id error ∨
      ∃ next, rule.Needs id next ∧ answer next = .error error) (rule.apply answer id))
    {id : Id kind} {error : Error} (h : rule.answer id = .error error) :
    (∃ ids, Circular rule.Needs ids ∧ (∀ other ∈ ids, ReflTransGen rule.Needs id other) ∧
        error = .cyclic kind (ids.map (set.label kind))) ∨
      ∃ other, ReflTransGen rule.Needs id other ∧ own other error := by
  apply error_of_answerFrom hown h (.singleton id)
  intro other hother
  cases List.mem_singleton.mp hother
  exact .refl

theorem answer_ne_ok_of_circular {id other : Id kind} {ids : List (Id kind)}
    (h : Circular rule.Needs ids) (hmem : other ∈ ids) (hreach : ReflTransGen rule.Needs id other)
    (value : α) : rule.answer id ≠ .ok value := by
  intro hvalue
  obtain ⟨last, hlast, hself⟩ := h.exists_transGen hmem
  have hpath : TransGen rule.Needs id last := TransGen.trans_right (hreach.trans hlast) hself
  obtain ⟨more, found, _, hfound⟩ := exists_answerFrom_of_transGen hvalue hpath
  exact not_transGen_self hfound hself

end Rule

namespace SchemaSet

variable (set : SchemaSet)

theorem raises_scalarRule (answer : TypeId → Except Error Scalar) (id : TypeId) :
    Raises (fun error => error.Plain ∨ ∃ next, set.ScalarNeeds id next ∧
      answer next = .error error) (set.scalarRule.apply answer id) :=
  Rules.raises_scalar (fun _ => .inl) fun next hneeds _ herror => .inr ⟨next, hneeds, herror⟩

theorem raises_attributesRule (answer : AttributeGroupId → Except Error (List AttributeId))
    (id : AttributeGroupId) :
    Raises (fun error => error.Plain ∨ ∃ next, set.AttributesNeed id next ∧
      answer next = .error error) (set.attributesRule.apply answer id) :=
  Rules.raises_attributes (fun _ => .inl) fun next hneeds _ herror => .inr ⟨next, hneeds, herror⟩

theorem raises_membersRule (answer : GroupId → Except Error (List Member)) (id : GroupId) :
    Raises (fun error => (error.Plain ∨ error.cycleKind? = some .element) ∨
      ∃ next, set.MembersNeed id next ∧ answer next = .error error)
      (set.membersRule.apply answer id) :=
  Rules.raises_members (fun _ hplain => .inl (.inl hplain))
    (fun id => (set.raises_nameOf .element id).weaken fun _ => .inl)
    fun next hneeds _ herror => .inr ⟨next, hneeds, herror⟩

/-- No failure of an attribute group is a cycle of types. -/
theorem raises_attributes_answer (id : AttributeGroupId) :
    Raises (fun error => error.cycleKind? ≠ some .type) (set.attributesRule.answer id) := by
  intro error herror
  rcases Rule.error_of_answer set.raises_attributesRule herror with
    ⟨ids, _, _, rfl⟩ | ⟨other, _, hplain⟩
  · exact nofun
  · exact hplain.ne .type

theorem raises_members_answer (id : GroupId) :
    Raises (fun error => error.cycleKind? ≠ some .type) (set.membersRule.answer id) := by
  intro error herror
  rcases Rule.error_of_answer set.raises_membersRule herror with
    ⟨ids, _, _, rfl⟩ | ⟨other, _, hplain | helement⟩
  · exact nofun
  · exact hplain.ne .type
  · rw [helement]
    exact nofun

theorem raises_name_answer {kind : SymbolKind} (hkind : kind ≠ .type) (id : Id kind) :
    Raises (fun error => error.cycleKind? ≠ some .type) (set.nameOf kind id) := by
  intro error herror
  rcases set.raises_nameOf kind id error herror with hplain | hcyclic
  · exact hplain.ne .type
  · rw [hcyclic]
    intro heq
    exact hkind (Option.some.inj heq)

theorem ownRaises_answersWith (content : TypeId → Except Error Content) :
    Rules.OwnRaises (set.answersWith content) fun error => error.cycleKind? ≠ some .type where
  plain _ hplain := hplain.ne .type
  elementName := set.raises_name_answer (by decide)
  attributeName := set.raises_name_answer (by decide)
  attributes := set.raises_attributes_answer
  members := set.raises_members_answer

/-- By itself the content of a type reports no cycle of types; its scalar may. -/
theorem raises_contentRule (answer : TypeId → Except Error Content) (id : TypeId) :
    Raises (fun error => (error.cycleKind? ≠ some .type ∨
        set.scalarRule.answer id = .error error) ∨
      ∃ next, set.ContentNeeds id next ∧ answer next = .error error)
      (set.contentRule.apply answer id) :=
  Rules.raises_content
    ((set.ownRaises_answersWith answer).weaken fun _ hother => .inl (.inl hother))
    (fun _ hscalar => .inl (.inr hscalar))
    fun next hneeds _ herror => .inr ⟨next, hneeds, herror⟩

variable {set}

theorem not_scalarNeeds_of_list {id : TypeId} {type : TypeDef} {item : TypeRef}
    (htype : set.typeDef id = .ok type) (hbody : type.body = .simple (.list item))
    (next : TypeId) : ¬ set.ScalarNeeds id next := by
  intro ⟨found, target, hfound, htarget, _⟩
  cases eq_of_ok hfound htype
  simp [scalarSources, hbody] at htarget

theorem not_contentNeeds_of_restriction {id : TypeId} {type : TypeDef} {derivation : Derivation}
    {mixed : Bool} (htype : set.typeDef id = .ok type)
    (hbody : type.body = .complex (.complex derivation) mixed)
    (hmethod : derivation.method = .restriction) (next : TypeId) :
    ¬ set.ContentNeeds id next := by
  intro ⟨found, lender, hfound, hlender, _⟩
  cases eq_of_ok hfound htype
  simp [lender?, hbody, hmethod] at hlender

end SchemaSet

namespace Resolving

variable {set : SchemaSet} {α : Type}

def result (work : Resolving α) (memo : Memo) : Except Error α :=
  match work memo with
  | .ok value _ => .ok value
  | .error error _ => .error error

theorem result_of_agrees {memo : Memo} (hmemo : memo.Settled set) {work : Resolving α}
    {answer : Except Error α} (h : Agrees set {} work answer) : work.result memo = answer := by
  obtain ⟨next, _, _, heq⟩ := h memo hmemo.1 hmemo.2
  rw [result, heq]
  cases answer <;> rfl

end Resolving

end SchemaBinding
