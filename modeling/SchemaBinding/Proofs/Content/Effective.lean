import SchemaBinding.Proofs.Content.Declared
import SchemaBinding.Proofs.Content.Kept
import SchemaBinding.Proofs.Emission.Complete

namespace SchemaBinding

/-- The value is answered from some memo that an emitter can have. -/
def Query.Gives (set : SchemaSet) (query : Query) (value : query.Answer) : Prop :=
  ∃ memo : Memo, memo.Reachable set ∧ query.answer set memo = .ok value

theorem Query.gives_iff {set : SchemaSet} {query : Query} {value : query.Answer} :
    query.Gives set value ↔ query.meaning set = .ok value := by
  constructor
  · rintro ⟨memo, hmemo, hanswer⟩
    rw [hmemo.settled.answer_eq] at hanswer
    exact hanswer
  · intro h
    refine ⟨{}, .empty, ?_⟩
    rw [(Memo.settled_empty set).answer_eq]
    exact h

/-- What a content is made of: the names that are taken from the start, and the entries of which
those that count become its members. -/
structure ContentParts where
  taken : List String := []
  entries : List Member
  base : Option TypeId := none
  text : Option TextContent := none

namespace SchemaSet

def HasContent (set : SchemaSet) (id : TypeId) (content : Content) : Prop :=
  (Query.content id).Gives set content

def HasScalar (set : SchemaSet) (id : TypeId) (scalar : Scalar) : Prop :=
  (Query.scalarOf (.complex id)).Gives set scalar

/-- The parts of the content of a type, by the shape of its body. -/
inductive PartsOf (set : SchemaSet) (id : TypeId) : TypeBody → ContentParts → Prop
  | direct {container : Container} {mixed : Bool} {own : List Member} :
      set.Declares container own →
        PartsOf set id (.complex (.direct container) mixed) { entries := own }
  /-- Simple content takes over the members of a complex base. -/
  | flattened {derivation : Derivation} {mixed : Bool} {base : TypeId} {inherited : Content}
      {scalar : Scalar} {own : List Member} :
      set.resolveTypeName derivation.base derivation.span = .ok (.complex base) →
        set.HasContent base inherited → set.HasScalar id scalar →
          set.Declares derivation.container own →
            PartsOf set id (.complex (.simple derivation) mixed) {
              taken := [Content.textFieldName]
              entries := inherited.members ++ own
              text := some ⟨scalar, derivation.facets⟩ }
  | simple {derivation : Derivation} {mixed : Bool} {base : TypeTarget} {scalar : Scalar}
      {own : List Member} :
      set.resolveTypeName derivation.base derivation.span = .ok base → base.complex? = none →
        set.HasScalar id scalar → set.Declares derivation.container own →
          PartsOf set id (.complex (.simple derivation) mixed) {
            taken := [Content.textFieldName]
            entries := own
            text := some ⟨scalar, derivation.facets⟩ }
  /-- An extension embeds a complex base, whose names are taken. -/
  | embedded {derivation : Derivation} {mixed : Bool} {base : TypeId} {inherited : Content}
      {own : List Member} :
      derivation.method = .extension →
        set.resolveTypeName derivation.base derivation.span = .ok (.complex base) →
          set.HasContent base inherited → set.Declares derivation.container own →
            PartsOf set id (.complex (.complex derivation) mixed) {
              taken := inherited.fieldNames
              entries := own
              base := some base }
  | anything {derivation : Derivation} {mixed : Bool} {own : List Member} :
      derivation.method = .extension →
        set.resolveTypeName derivation.base derivation.span = .ok (.builtin .anyType) →
          set.Declares derivation.container own →
            PartsOf set id (.complex (.complex derivation) mixed) { entries := own }
  | restriction {derivation : Derivation} {mixed : Bool} {own : List Member} :
      derivation.method = .restriction → set.Declares derivation.container own →
        PartsOf set id (.complex (.complex derivation) mixed) { entries := own }

def HasParts (set : SchemaSet) (id : TypeId) (parts : ContentParts) : Prop :=
  ∃ type, set.typeDef id = .ok type ∧ set.PartsOf id type.body parts

/-! A type has at most one content, and it is made of at most one list of parts. -/

variable {set : SchemaSet} {id : TypeId}

theorem HasContent.unique {first second : Content} (h : set.HasContent id first)
    (h' : set.HasContent id second) : first = second :=
  eq_of_ok (Query.gives_iff.mp h) (Query.gives_iff.mp h')

theorem HasScalar.unique {first second : Scalar} (h : set.HasScalar id first)
    (h' : set.HasScalar id second) : first = second :=
  eq_of_ok (Query.gives_iff.mp h) (Query.gives_iff.mp h')

theorem PartsOf.unique {body : TypeBody} {first second : ContentParts}
    (h : set.PartsOf id body first) (h' : set.PartsOf id body second) : first = second := by
  cases h with
  | direct hown =>
      cases h' with
      | direct hown' => rw [hown.unique hown']
  | flattened hbase hinherited hscalar hown =>
      cases h' with
      | flattened hbase' hinherited' hscalar' hown' =>
          cases eq_of_ok hbase hbase'
          rw [hinherited.unique hinherited', hscalar.unique hscalar', hown.unique hown']
      | simple hbase' hnone =>
          cases eq_of_ok hbase hbase'
          cases hnone
  | simple hbase hnone hscalar hown =>
      cases h' with
      | flattened hbase' =>
          cases eq_of_ok hbase hbase'
          cases hnone
      | simple _ _ hscalar' hown' => rw [hscalar.unique hscalar', hown.unique hown']
  | embedded hmethod hbase hinherited hown =>
      cases h' with
      | embedded _ hbase' hinherited' hown' =>
          cases eq_of_ok hbase hbase'
          rw [hinherited.unique hinherited', hown.unique hown']
      | anything _ hbase' =>
          cases eq_of_ok hbase hbase'
      | restriction hmethod' =>
          cases hmethod.symm.trans hmethod'
  | anything hmethod hbase hown =>
      cases h' with
      | embedded _ hbase' =>
          cases eq_of_ok hbase hbase'
      | anything _ _ hown' => rw [hown.unique hown']
      | restriction hmethod' =>
          cases hmethod.symm.trans hmethod'
  | restriction hmethod hown =>
      cases h' with
      | embedded hmethod' =>
          cases hmethod.symm.trans hmethod'
      | anything hmethod' =>
          cases hmethod.symm.trans hmethod'
      | restriction _ hown' => rw [hown.unique hown']

theorem HasParts.unique {first second : ContentParts} (h : set.HasParts id first)
    (h' : set.HasParts id second) : first = second := by
  obtain ⟨type, htype, hparts⟩ := h
  obtain ⟨type', htype', hparts'⟩ := h'
  cases eq_of_ok htype htype'
  exact hparts.unique hparts'

theorem HasParts.iff_eq {parts : ContentParts} (h : set.HasParts id parts)
    (other : ContentParts) : set.HasParts id other ↔ other = parts := by
  constructor
  · intro hother
    exact hother.unique h
  · rintro rfl
    exact h

end SchemaSet

def ContentParts.start (parts : ContentParts) : Content where
  base := parts.base
  text := parts.text
  fieldNames := parts.taken

namespace Rules

open SchemaSet

variable {set : SchemaSet} {id : TypeId}

theorem exists_parts_of_simpleContent {derivation : Derivation} {mixed : Bool} {content : Content}
    (h : simpleContent set set.answers id derivation = .ok content) :
    ∃ parts, set.PartsOf id (.complex (.simple derivation) mixed) parts ∧
      content = parts.start.addAll parts.entries := by
  simp only [simpleContent, given_eq, bind_eq_ok_iff] at h
  obtain ⟨scalar, hscalar, base, hbase, inherited, hinherited, own, hown, heq⟩ := h
  cases heq
  have hscalar : set.HasScalar id scalar := Query.gives_iff.mpr hscalar
  have hown := declares_of_ownMembers hown
  cases base with
  | builtin type =>
      cases hinherited
      exact ⟨_, .simple hbase rfl hscalar hown, rfl⟩
  | simple base =>
      cases hinherited
      exact ⟨_, .simple hbase rfl hscalar hown, rfl⟩
  | complex base =>
      simp only [flattenedMembers, bind_eq_ok_iff] at hinherited
      obtain ⟨found, hfound, heq⟩ := hinherited
      cases heq
      have hfound : set.HasContent base found := Query.gives_iff.mpr hfound
      exact ⟨_, .flattened hbase hfound hscalar hown, rfl⟩

theorem exists_parts_of_complexContent {derivation : Derivation} {mixed : Bool}
    {content : Content} (h : complexContent set set.answers derivation = .ok content) :
    ∃ parts, set.PartsOf id (.complex (.complex derivation) mixed) parts ∧
      content = parts.start.addAll parts.entries := by
  simp only [complexContent, given_eq, bind_eq_ok_iff] at h
  obtain ⟨base, hbase, start, hstart, own, hown, heq⟩ := h
  cases heq
  have hown := declares_of_ownMembers hown
  cases hmethod : derivation.method with
  | restriction =>
      rw [contentStart, hmethod] at hstart
      cases hstart
      exact ⟨_, .restriction hmethod hown, rfl⟩
  | extension =>
      rw [contentStart, hmethod] at hstart
      cases base with
      | builtin type =>
          simp only [extended] at hstart
          split at hstart
          case isTrue hany =>
              cases hstart
              exact ⟨_, .anything hmethod (hany ▸ hbase) hown, rfl⟩
          case isFalse => cases hstart
      | simple base => cases hstart
      | complex base =>
          simp only [extended, bind_eq_ok_iff] at hstart
          obtain ⟨found, hfound, heq⟩ := hstart
          cases heq
          have hfound : set.HasContent base found := Query.gives_iff.mpr hfound
          exact ⟨_, .embedded hmethod hbase hfound hown, rfl⟩

theorem exists_parts_of_content {content : Content}
    (h : Rules.content set set.answers id = .ok content) :
    ∃ parts, set.HasParts id parts ∧ content = parts.start.addAll parts.entries := by
  simp only [Rules.content, given_eq, bind_eq_ok_iff] at h
  obtain ⟨type, htype, hbody⟩ := h
  have hparts : ∃ parts, set.PartsOf id type.body parts ∧
      content = parts.start.addAll parts.entries := by
    cases hshape : type.body with
    | simple derivation =>
        rw [bodyContent, hshape] at hbody
        cases hbody
    | complex body mixed =>
        cases body with
        | direct container =>
            simp only [bodyContent, hshape, bind_eq_ok_iff] at hbody
            obtain ⟨own, hown, heq⟩ := hbody
            cases heq
            exact ⟨_, .direct (declares_of_ownMembers hown), rfl⟩
        | simple derivation =>
            rw [bodyContent, hshape] at hbody
            exact exists_parts_of_simpleContent hbody
        | complex derivation =>
            rw [bodyContent, hshape] at hbody
            exact exists_parts_of_complexContent hbody
  obtain ⟨parts, hparts, hcontent⟩ := hparts
  exact ⟨parts, ⟨type, htype, hparts⟩, hcontent⟩

theorem exists_parts {content : Content} (h : set.HasContent id content) :
    ∃ parts, set.HasParts id parts ∧ content = parts.start.addAll parts.entries :=
  exists_parts_of_content (Rule.apply_answer (Query.gives_iff.mp h))

end Rules

/-- What holds of all that is declared somewhere holds of the members of every content, which are
declared by the type itself or handed on from a base. -/
theorem SchemaSet.HasContent.forall_members {set : SchemaSet} {P : Member → Prop}
    (hdeclared : ∀ container own, set.Declares container own → ∀ member ∈ own, P member)
    {id : TypeId} {content : Content} (h : set.HasContent id content) :
    ∀ member ∈ content.members, P member := by
  apply Rule.answer_induction (motive := fun _ content => ∀ member ∈ content.members, P member) _
    (Query.gives_iff.mp h)
  intro id content happly hneeded member hmember
  obtain ⟨parts, ⟨type, htype, hparts⟩, rfl⟩ := Rules.exists_parts_of_content happly
  rw [Content.addAll_eq] at hmember
  have hentry : member ∈ parts.entries := by
    rcases List.mem_append.mp hmember with hstart | hkept
    · cases hstart
    · exact Content.mem_of_mem_kept hkept
  generalize hbody : type.body = body at hparts
  -- only simple content has entries of others, and they are members of a content that it needs
  cases hparts with
  | direct hown => exact hdeclared _ _ hown member hentry
  | @flattened derivation mixed base inherited scalar own hname hinherited _ hown =>
      have hneeds : set.ContentNeeds id base :=
        ⟨type, derivation, htype, by simp [lender?, hbody], hname⟩
      rcases List.mem_append.mp hentry with hmem | hmem
      · exact hneeded base inherited hneeds (Query.gives_iff.mp hinherited) member hmem
      · exact hdeclared _ _ hown member hmem
  | simple _ _ _ hown => exact hdeclared _ _ hown member hentry
  | embedded _ _ _ hown => exact hdeclared _ _ hown member hentry
  | anything _ _ hown => exact hdeclared _ _ hown member hentry
  | restriction _ hown => exact hdeclared _ _ hown member hentry

end SchemaBinding
