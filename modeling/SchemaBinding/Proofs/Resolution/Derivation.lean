import Mathlib.Order.Bounds.Lattice
import SchemaBinding.Proofs.Loading.Provenance
import SchemaBinding.Proofs.Resolution.Query

namespace SchemaBinding

namespace Scalar

/-- A scalar stands for itself, and text for every one. -/
instance : SemilatticeSup Scalar where
  le scalar bound := scalar = bound ∨ bound = .string
  le_refl _ := .inl rfl
  le_trans first second third hfirst hsecond := by
    rcases hsecond with rfl | hthird
    · exact hfirst
    · exact .inr hthird
  le_antisymm first second hfirst hsecond := by
    rcases hfirst with heq | hsecond'
    · exact heq
    · rcases hsecond with heq | hfirst'
      · exact heq.symm
      · rw [hfirst', hsecond']
  sup first second := if first = second then first else .string
  le_sup_left first second := by
    split
    · exact .inl rfl
    · exact .inr rfl
  le_sup_right first second := by
    split
    case isTrue heq => exact .inl heq.symm
    case isFalse => exact .inr rfl
  sup_le first second bound hfirst hsecond := by
    split
    case isTrue => exact hfirst
    case isFalse hne =>
        rcases hfirst with rfl | htext
        · rcases hsecond with rfl | htext
          · exact absurd rfl hne
          · exact .inr htext
        · exact .inr htext

/-- The least scalar for several is theirs if that is one, and text if two of them differ. -/
theorem isLUB_iff {scalars : Set Scalar} (hsome : scalars.Nonempty) {scalar : Scalar} :
    IsLUB scalars scalar ↔ (∀ other ∈ scalars, other = scalar) ∨
      scalar = .string ∧ ∃ first ∈ scalars, ∃ second ∈ scalars, first ≠ second := by
  constructor
  · intro hlub
    by_cases hsame : ∀ other ∈ scalars, other = scalar
    · exact .inl hsame
    · push Not at hsame
      obtain ⟨other, hother, hne⟩ := hsame
      have htext : scalar = .string := (hlub.1 hother).resolve_left hne
      refine .inr ⟨htext, other, hother, ?_⟩
      by_contra hall
      push Not at hall
      -- if no scalar differed from the other one, that would be the least
      have hbound : other ∈ upperBounds scalars := fun found hfound => .inl (hall found hfound).symm
      rcases hlub.2 hbound with heq | hother
      · exact hne heq.symm
      · exact hne (hother.trans htext.symm)
  · rintro (hsame | ⟨rfl, first, hfirst, second, hsecond, hne⟩)
    · obtain ⟨other, hother⟩ := hsome
      refine ⟨fun found hfound => .inl (hsame found hfound), fun bound hbound => ?_⟩
      exact hsame other hother ▸ hbound hother
    · refine ⟨fun _ _ => .inr rfl, fun bound hbound => .inr ?_⟩
      rcases hbound hfirst with rfl | htext
      · rcases hbound hsecond with heq | htext
        · exact absurd heq.symm hne
        · exact htext
      · exact htext

theorem isLUB_map_const {α : Type} {items : List α} (hsome : items ≠ []) (scalar : Scalar) :
    IsLUB {other | other ∈ items.map fun _ => scalar} scalar := by
  have hnonempty : {other | other ∈ items.map fun _ => scalar}.Nonempty :=
    List.exists_mem_of_ne_nil _ (List.map_eq_nil_iff.not.mpr hsome)
  refine (isLUB_iff hnonempty).mpr (.inl fun other hother => ?_)
  obtain ⟨_, _, heq⟩ := List.mem_map.mp hother
  exact heq.symm

theorem isLUB_map_of_ne {α : Type} {items : List α} {scalars : α → Scalar} {first second : α}
    (hfirst : first ∈ items) (hsecond : second ∈ items) (hne : scalars first ≠ scalars second) :
    IsLUB {other | other ∈ items.map scalars} .string := by
  have hfirst' := List.mem_map_of_mem (f := scalars) hfirst
  have hsecond' := List.mem_map_of_mem (f := scalars) hsecond
  exact (isLUB_iff ⟨_, hfirst'⟩).mpr (.inr ⟨rfl, _, hfirst', _, hsecond', hne⟩)

end Scalar

namespace Rules

theorem foldl_joinScalars (scalar : Scalar) (scalars : List Scalar) :
    scalars.foldl joinScalars (some scalar) = some (scalars.foldl (· ⊔ ·) scalar) := by
  induction scalars generalizing scalar with
  | nil => rfl
  | cons other rest ih =>
      have hjoin : joinScalars (some scalar) other = some (scalar ⊔ other) :=
        (apply_ite some (scalar = other) scalar .string).symm
      rw [List.foldl_cons, hjoin, ih, List.foldl_cons]

theorem foldl_sup_le_iff {scalar bound : Scalar} {scalars : List Scalar} :
    scalars.foldl (· ⊔ ·) scalar ≤ bound ↔ ∀ other ∈ scalar :: scalars, other ≤ bound := by
  induction scalars generalizing scalar with
  | nil => simp
  | cons other rest ih =>
      rw [List.foldl_cons, ih]
      simp only [List.forall_mem_cons, sup_le_iff, and_assoc]

theorem isLUB_foldl (scalar : Scalar) (scalars : List Scalar) :
    IsLUB {other | other ∈ scalar :: scalars} (scalars.foldl (· ⊔ ·) scalar) :=
  isLUB_iff_le_iff.mpr fun _ => foldl_sup_le_iff

theorem isLUB_joinScalars {scalars : List Scalar} (hsome : scalars ≠ []) {scalar : Scalar} :
    scalars.foldl joinScalars none = some scalar ↔ IsLUB {other | other ∈ scalars} scalar := by
  obtain ⟨first, rest, rfl⟩ := List.exists_cons_of_ne_nil hsome
  have hfold : (first :: rest).foldl joinScalars none = some (rest.foldl (· ⊔ ·) first) :=
    foldl_joinScalars first rest
  rw [hfold, Option.some.injEq]
  exact ⟨fun heq => heq ▸ isLUB_foldl first rest, fun hlub => (isLUB_foldl first rest).unique hlub⟩

end Rules

/-! What a type has its scalar from. -/

/-- What is built in is in the table of built-in types. -/
def TypeTarget.InTable : TypeTarget → Prop
  | .builtin type => Builtin.lookup? type.name = some type
  | _ => True

namespace SchemaSet

variable (set : SchemaSet)

/-- A member of a union stands for a type with a scalar. -/
def MemberHas (has : TypeTarget → Scalar → Prop) (span : Span) (member : TypeRef)
    (scalar : Scalar) : Prop :=
  ∃ target, set.resolveTypeRef member span = .ok target ∧ has target scalar

/-- Every member of a union has a scalar, and that of the union is the least one for them. -/
def JoinsMembers (has : TypeTarget → Scalar → Prop) (span : Span) (members : List TypeRef)
    (scalar : Scalar) : Prop :=
  ∃ scalars : TypeRef → Scalar,
    (∀ member ∈ members, set.MemberHas has span member (scalars member)) ∧
      IsLUB {other | other ∈ members.map scalars} scalar

/-- The scalar that a type has from those of other types. -/
def ScalarFrom (has : TypeTarget → Scalar → Prop) (type : TypeDef) (scalar : Scalar) : Prop :=
  match type.body with
  | .simple (.restriction base _) =>
      ∃ target, set.resolveTypeRef base type.span = .ok target ∧ has target scalar
  | .simple (.list item) =>
      (∃ target, set.resolveTypeRef item type.span = .ok target) ∧ scalar = .string
  | .simple (.union members) => set.JoinsMembers has type.span members scalar
  | .complex (.simple derivation) _ =>
      ∃ target, Rules.contentBase set derivation = .ok target ∧ has target scalar
  | .complex _ mixed => mixed = true ∧ scalar = .string

def IsTypeOf (target : TypeTarget) (type : TypeDef) : Prop :=
  ∃ id, target.id? = some id ∧ set.typeDef id = .ok type

/-- The scalars that can be derived for what a type name stands for. -/
inductive Derives : TypeTarget → Scalar → Prop
  | builtin {type : Builtin} : Builtin.lookup? type.name = some type →
      Derives (.builtin type) type.scalar
  | restriction {target base : TypeTarget} {type : TypeDef} {reference : TypeRef}
      {facets : Facets} {scalar : Scalar} : set.IsTypeOf target type →
        type.body = .simple (.restriction reference facets) →
          set.resolveTypeRef reference type.span = .ok base → Derives base scalar →
            Derives target scalar
  /-- The type of the items need not have a scalar. -/
  | list {target item : TypeTarget} {type : TypeDef} {reference : TypeRef} :
      set.IsTypeOf target type → type.body = .simple (.list reference) →
        set.resolveTypeRef reference type.span = .ok item → Derives target .string
  | union {target : TypeTarget} {type : TypeDef} {members : List TypeRef} {scalar : Scalar}
      (targets : TypeRef → TypeTarget) : set.IsTypeOf target type →
        type.body = .simple (.union members) →
          (∀ member ∈ members, set.resolveTypeRef member type.span = .ok (targets member)) →
            (∀ member ∈ members, Derives (targets member) scalar) → Derives target scalar
  | differing {target : TypeTarget} {type : TypeDef} {members : List TypeRef}
      (targets : TypeRef → TypeTarget) (scalars : TypeRef → Scalar) {first second : TypeRef} :
        set.IsTypeOf target type → type.body = .simple (.union members) →
          (∀ member ∈ members, set.resolveTypeRef member type.span = .ok (targets member)) →
            (∀ member ∈ members, Derives (targets member) (scalars member)) →
              first ∈ members → second ∈ members → scalars first ≠ scalars second →
                Derives target .string
  | inlineContent {target base : TypeTarget} {type : TypeDef} {derivation : Derivation}
      {mixed : Bool} {inner : TypeId} {scalar : Scalar} : set.IsTypeOf target type →
        type.body = .complex (.simple derivation) mixed → derivation.method = .restriction →
          derivation.inlineSimple = some inner → set.typeTarget inner = .ok base →
            Derives base scalar → Derives target scalar
  | baseContent {target base : TypeTarget} {type : TypeDef} {derivation : Derivation}
      {mixed : Bool} {scalar : Scalar} : set.IsTypeOf target type →
        type.body = .complex (.simple derivation) mixed →
          ¬ (derivation.method = .restriction ∧ derivation.inlineSimple.isSome) →
            set.resolveTypeName derivation.base derivation.span = .ok base →
              Derives base scalar → Derives target scalar
  | mixed {target : TypeTarget} {type : TypeDef} {content : ComplexContent} :
      set.IsTypeOf target type → type.body = .complex content true →
        (∀ derivation, content ≠ .simple derivation) → Derives target .string

variable {set} {has : TypeTarget → Scalar → Prop} {type : TypeDef} {scalar : Scalar}

theorem contentBase_eq_ok_iff {derivation : Derivation} {base : TypeTarget} :
    Rules.contentBase set derivation = .ok base ↔
      (∃ inner, derivation.method = .restriction ∧ derivation.inlineSimple = some inner ∧
        set.typeTarget inner = .ok base) ∨
      ¬ (derivation.method = .restriction ∧ derivation.inlineSimple.isSome) ∧
        set.resolveTypeName derivation.base derivation.span = .ok base := by
  unfold Rules.contentBase
  split
  case h_1 inner hmethod hinline => simp [hmethod, hinline]
  case h_2 hother =>
      have hnone : ¬ (derivation.method = .restriction ∧ derivation.inlineSimple.isSome) := by
        rintro ⟨hmethod, hinline⟩
        obtain ⟨inner, hinner⟩ := Option.isSome_iff_exists.mp hinline
        exact hother inner hmethod hinner
      constructor
      · intro h
        exact .inr ⟨hnone, h⟩
      · rintro (⟨inner, hmethod, hinline, _⟩ | ⟨_, h⟩)
        · exact absurd hinline (hother inner hmethod)
        · exact h

theorem derives_of_union {target : TypeTarget} {members : List TypeRef}
    (htarget : set.IsTypeOf target type) (hbody : type.body = .simple (.union members))
    (hsome : members ≠ []) (h : set.JoinsMembers set.Derives type.span members scalar) :
    set.Derives target scalar := by
  obtain ⟨scalars, hmembers, hlub⟩ := h
  have : Nonempty TypeTarget := ⟨.builtin .anyType⟩
  choose! targets hresolve hderives using hmembers
  have hnonempty : {other | other ∈ members.map scalars}.Nonempty :=
    List.exists_mem_of_ne_nil _ (List.map_eq_nil_iff.not.mpr hsome)
  rcases (Scalar.isLUB_iff hnonempty).mp hlub with hsame | ⟨rfl, hdiffer⟩
  · refine .union targets htarget hbody hresolve fun member hmember => ?_
    rw [← hsame _ (List.mem_map_of_mem hmember)]
    exact hderives member hmember
  · obtain ⟨_, hleft, _, hright, hne⟩ := hdiffer
    obtain ⟨first, hfirst, rfl⟩ := List.mem_map.mp hleft
    obtain ⟨second, hsecond, rfl⟩ := List.mem_map.mp hright
    exact .differing targets scalars htarget hbody hresolve hderives hfirst hsecond hne

theorem derives_of_scalarFrom {target : TypeTarget} (htarget : set.IsTypeOf target type)
    (hmember : type.HasMember) (h : set.ScalarFrom set.Derives type scalar) :
    set.Derives target scalar := by
  unfold ScalarFrom at h
  split at h
  case h_1 base facets hbody =>
      obtain ⟨next, hnext, hderives⟩ := h
      exact .restriction htarget hbody hnext hderives
  case h_2 item hbody =>
      obtain ⟨⟨next, hnext⟩, rfl⟩ := h
      exact .list htarget hbody hnext
  case h_3 members hbody => exact derives_of_union htarget hbody (hmember _ hbody) h
  case h_4 derivation mixed hbody =>
      obtain ⟨base, hbase, hderives⟩ := h
      rcases contentBase_eq_ok_iff.mp hbase with ⟨inner, hmethod, hinline, htype⟩ | ⟨hnone, hname⟩
      · exact .inlineContent htarget hbody hmethod hinline htype hderives
      · exact .baseContent htarget hbody hnone hname hderives
  case h_5 content mixed hother hbody =>
      obtain ⟨rfl, rfl⟩ := h
      exact .mixed htarget hbody hother

def Answered (answer : TypeId → Except Error Scalar) (target : TypeTarget) (scalar : Scalar) :
    Prop :=
  Rules.scalarAt answer target = .ok scalar

def HasAnswer (set : SchemaSet) : TypeTarget → Scalar → Prop :=
  Answered set.scalarRule.answer

section

variable {answer : TypeId → Except Error Scalar} {span : Span} {members : List TypeRef}
  {known result : Option Scalar}

theorem exists_of_unionScalar (h : Rules.unionScalar set answer span known members = .ok result)
    {member : TypeRef} (hmember : member ∈ members) :
    ∃ other, set.MemberHas (Answered answer) span member other := by
  induction members generalizing known with
  | nil => cases hmember
  | cons first rest ih =>
      simp only [Rules.unionScalar, given_eq, bind_eq_ok_iff] at h
      obtain ⟨target, htarget, other, hother, hrest⟩ := h
      rcases List.mem_cons.mp hmember with rfl | hlater
      · exact ⟨other, target, htarget, hother⟩
      · exact ih hrest hlater

theorem unionScalar_eq {scalars : TypeRef → Scalar}
    (h : ∀ member ∈ members, set.MemberHas (Answered answer) span member (scalars member)) :
    Rules.unionScalar set answer span known members =
      .ok ((members.map scalars).foldl Rules.joinScalars known) := by
  induction members generalizing known with
  | nil => rfl
  | cons first rest ih =>
      obtain ⟨target, htarget, hscalar⟩ := h first List.mem_cons_self
      rw [Answered] at hscalar
      rw [Rules.unionScalar, given_eq, htarget]
      simp only [bind, Except.bind, hscalar]
      exact ih fun member hmember => h member (List.mem_cons_of_mem _ hmember)

theorem exists_scalars_of_unionScalar
    (h : Rules.unionScalar set answer span known members = .ok result) :
    ∃ scalars : TypeRef → Scalar,
      (∀ member ∈ members, set.MemberHas (Answered answer) span member (scalars member)) ∧
        (members.map scalars).foldl Rules.joinScalars known = result := by
  have : Nonempty Scalar := ⟨.string⟩
  have hmembers : ∀ member ∈ members, ∃ other,
      set.MemberHas (Answered answer) span member other := fun _ => exists_of_unionScalar h
  choose! scalars hscalars using hmembers
  rw [unionScalar_eq hscalars] at h
  exact ⟨scalars, hscalars, Except.ok.inj h⟩

theorem unionScalar_eq_ok_iff (hsome : members ≠ []) :
    Rules.unionScalar set answer span none members = .ok (some scalar) ↔
      set.JoinsMembers (Answered answer) span members scalar := by
  have hlub : ∀ scalars : TypeRef → Scalar,
      (members.map scalars).foldl Rules.joinScalars none = some scalar ↔
        IsLUB {other | other ∈ members.map scalars} scalar := fun _ =>
    Rules.isLUB_joinScalars (List.map_eq_nil_iff.not.mpr hsome)
  constructor
  · intro h
    obtain ⟨scalars, hscalars, hjoined⟩ := exists_scalars_of_unionScalar h
    exact ⟨scalars, hscalars, (hlub scalars).mp hjoined⟩
  · rintro ⟨scalars, hscalars, hleast⟩
    rw [unionScalar_eq hscalars, (hlub scalars).mpr hleast]

theorem simpleScalar_union_iff (hsome : members ≠ []) :
    Rules.simpleScalar set answer span (.union members) = .ok scalar ↔
      Rules.unionScalar set answer span none members = .ok (some scalar) := by
  rw [Rules.simpleScalar, bind_eq_ok_iff]
  constructor
  · rintro ⟨result, hresult, hscalar⟩
    obtain ⟨scalars, _, hjoined⟩ := exists_scalars_of_unionScalar hresult
    obtain ⟨first, rest, rfl⟩ := List.exists_cons_of_ne_nil hsome
    have hfound : result = some ((rest.map scalars).foldl (· ⊔ ·) (scalars first)) := by
      rw [← hjoined]
      exact Rules.foldl_joinScalars _ _
    rw [hfound] at hscalar hresult
    cases hscalar
    exact hresult
  · intro h
    exact ⟨some scalar, h, rfl⟩

theorem bodyScalar_eq_ok_iff (hmember : type.HasMember) :
    Rules.bodyScalar set answer type = .ok scalar ↔
      set.ScalarFrom (Answered answer) type scalar := by
  have hother : ∀ mixed : Bool, (if mixed then pure .string else
      throw (set.malformed (.noSimpleContent type.displayName) type.span)) =
        (.ok scalar : Except Error Scalar) ↔ mixed = true ∧ scalar = .string := by
    intro mixed
    cases mixed with
    | false => exact ⟨nofun, nofun⟩
    | true => exact ⟨fun h => ⟨rfl, (Except.ok.inj h).symm⟩, fun h => congrArg Except.ok h.2.symm⟩
  unfold ScalarFrom Rules.bodyScalar
  cases hbody : type.body with
  | simple derivation =>
      cases derivation with
      | restriction base facets =>
          simp only [Rules.simpleScalar, given_eq, bind_eq_ok_iff, Answered]
      | list item =>
          simp only [Rules.simpleScalar, given_eq, bind_eq_ok_iff, exists_and_right]
          refine and_congr_right fun _ => ?_
          exact ⟨fun h => (Except.ok.inj h).symm, fun h => congrArg Except.ok h.symm⟩
      | union members =>
          have hsome : members ≠ [] := hmember _ hbody
          exact (simpleScalar_union_iff hsome).trans (unionScalar_eq_ok_iff hsome)
  | complex content mixed =>
      cases content with
      | simple derivation => simp only [given_eq, bind_eq_ok_iff, Answered]
      | direct container => exact hother mixed
      | complex derivation => exact hother mixed

end

theorem hasAnswer_iff {target : TypeTarget} (htarget : set.IsTypeOf target type)
    (hmember : type.HasMember) :
    set.HasAnswer target scalar ↔ set.ScalarFrom set.HasAnswer type scalar := by
  obtain ⟨id, hid, htype⟩ := htarget
  have happly : set.scalarRule.apply set.scalarRule.answer id =
      Rules.bodyScalar set set.scalarRule.answer type := by
    change Rules.scalar set set.scalarRule.answer id = _
    rw [Rules.scalar, given_eq, htype]
    rfl
  rw [HasAnswer, Answered, Rules.scalarAt_eq_of_id? hid]
  refine Iff.trans ?_ (bodyScalar_eq_ok_iff hmember)
  rw [← happly]
  exact ⟨Rule.apply_answer, Rule.answer_of_apply⟩

/-- Where the scalars of the types that it is made of are replaced, so is a type's scalar. -/
theorem ScalarFrom.imp {fine : TypeTarget → Scalar → Prop} (h : set.ScalarFrom has type scalar)
    (himp : ∀ target, .ok target ∈ set.scalarSources type → ∀ scalar, has target scalar →
      fine target scalar) : set.ScalarFrom fine type scalar := by
  unfold ScalarFrom at h ⊢
  unfold scalarSources at himp
  split at h
  case h_1 base facets hbody =>
      simp only [hbody] at himp
      obtain ⟨target, htarget, hscalar⟩ := h
      exact ⟨target, htarget, himp target (List.mem_singleton.mpr htarget.symm) scalar hscalar⟩
  case h_2 item hbody => exact h
  case h_3 members hbody =>
      simp only [hbody] at himp
      obtain ⟨scalars, hmembers, hlub⟩ := h
      refine ⟨scalars, fun member hmember => ?_, hlub⟩
      obtain ⟨target, htarget, hscalar⟩ := hmembers member hmember
      exact ⟨target, htarget,
        himp target (List.mem_map.mpr ⟨member, hmember, htarget⟩) _ hscalar⟩
  case h_4 derivation mixed hbody =>
      simp only [hbody] at himp
      obtain ⟨target, htarget, hscalar⟩ := h
      exact ⟨target, htarget, himp target (List.mem_singleton.mpr htarget.symm) scalar hscalar⟩
  case h_5 content mixed hother hbody => exact h

def UnionsHaveMembers (set : SchemaSet) : Prop :=
  ∀ id type, set.typeDef id = .ok type → type.HasMember

theorem hasAnswer_of_derives (hmembers : set.UnionsHaveMembers) {target : TypeTarget}
    (h : set.Derives target scalar) : set.HasAnswer target scalar := by
  have hanswer : ∀ {target type scalar}, set.IsTypeOf target type →
      set.ScalarFrom set.HasAnswer type scalar → set.HasAnswer target scalar := by
    intro target type scalar htarget hscalar
    obtain ⟨id, hid, htype⟩ := htarget
    exact (hasAnswer_iff ⟨id, hid, htype⟩ (hmembers id type htype)).mpr hscalar
  induction h with
  | builtin _ => rfl
  | restriction htarget hbody hbase _ ih =>
      apply hanswer htarget
      rw [ScalarFrom, hbody]
      exact ⟨_, hbase, ih⟩
  | list htarget hbody hitem =>
      apply hanswer htarget
      rw [ScalarFrom, hbody]
      exact ⟨⟨_, hitem⟩, rfl⟩
  | @union target type members scalar targets htarget hbody hresolve _ ih =>
      have hsome : members ≠ [] := by
        obtain ⟨id, _, htype⟩ := htarget
        exact hmembers id type htype _ hbody
      apply hanswer htarget
      rw [ScalarFrom, hbody]
      exact ⟨fun _ => scalar, fun member hmember =>
        ⟨targets member, hresolve member hmember, ih member hmember⟩,
        Scalar.isLUB_map_const hsome scalar⟩
  | @differing target type members targets scalars first second htarget hbody hresolve _ hfirst
      hsecond hne ih =>
      apply hanswer htarget
      rw [ScalarFrom, hbody]
      exact ⟨scalars, fun member hmember =>
        ⟨targets member, hresolve member hmember, ih member hmember⟩,
        Scalar.isLUB_map_of_ne hfirst hsecond hne⟩
  | inlineContent htarget hbody hmethod hinline htype _ ih =>
      apply hanswer htarget
      rw [ScalarFrom, hbody]
      exact ⟨_, contentBase_eq_ok_iff.mpr (.inl ⟨_, hmethod, hinline, htype⟩), ih⟩
  | baseContent htarget hbody hnone hname _ ih =>
      apply hanswer htarget
      rw [ScalarFrom, hbody]
      exact ⟨_, contentBase_eq_ok_iff.mpr (.inr ⟨hnone, hname⟩), ih⟩
  | @mixed target type content htarget hbody hother =>
      apply hanswer htarget
      rw [ScalarFrom, hbody]
      cases content with
      | simple derivation => exact absurd rfl (hother derivation)
      | direct container => exact ⟨rfl, rfl⟩
      | complex derivation => exact ⟨rfl, rfl⟩

theorem inTable_of_typeTarget {id : TypeId} {target : TypeTarget}
    (h : set.typeTarget id = .ok target) : target.InTable := by
  obtain ⟨type, _, htarget⟩ := bind_eq_ok_iff.mp h
  cases hcomplex : type.isComplex with
  | false =>
      rw [hcomplex] at htarget
      cases htarget
      trivial
  | true =>
      rw [hcomplex] at htarget
      cases htarget
      trivial

theorem inTable_of_resolveTypeName {name : QName} {span : Span} {target : TypeTarget}
    (h : set.resolveTypeName name span = .ok target) : target.InTable := by
  unfold resolveTypeName at h
  split at h
  case isTrue =>
      split at h
      case h_1 type hlookup =>
          cases h
          obtain ⟨scalar, _, rfl⟩ := Option.map_eq_some_iff.mp hlookup
          exact hlookup
      case h_2 => cases h
  case isFalse =>
      obtain ⟨id, _, htarget⟩ := bind_eq_ok_iff.mp h
      exact inTable_of_typeTarget htarget

theorem inTable_of_resolveTypeRef {reference : TypeRef} {span : Span} {target : TypeTarget}
    (h : set.resolveTypeRef reference span = .ok target) : target.InTable := by
  cases reference with
  | named name => exact inTable_of_resolveTypeName h
  | inline id => exact inTable_of_typeTarget h

theorem inTable_of_source {target : TypeTarget} (h : .ok target ∈ set.scalarSources type) :
    target.InTable := by
  unfold scalarSources at h
  split at h
  case h_1 => exact inTable_of_resolveTypeRef (List.mem_singleton.mp h).symm
  case h_2 => cases h
  case h_3 =>
      obtain ⟨member, _, htarget⟩ := List.mem_map.mp h
      exact inTable_of_resolveTypeRef htarget
  case h_4 derivation mixed hbody =>
      rcases contentBase_eq_ok_iff.mp (List.mem_singleton.mp h).symm with
        ⟨inner, _, _, htarget⟩ | ⟨_, hname⟩
      · exact inTable_of_typeTarget htarget
      · exact inTable_of_resolveTypeName hname
  case h_5 => cases h

/-! Answers are derived. -/

/-- What is handed on from the types that a type is made of holds of every answer. No type with
an answer is made of itself. -/
theorem HasAnswer.induction (hmembers : set.UnionsHaveMembers)
    {motive : TypeTarget → Scalar → Prop} (builtin : ∀ type, motive (.builtin type) type.scalar)
    (step : ∀ id type scalar, set.typeDef id = .ok type → ¬ set.ScalarNeeds id id →
      set.ScalarFrom (fun target scalar => .ok target ∈ set.scalarSources type ∧
        motive target scalar) type scalar →
          ∀ target : TypeTarget, target.id? = some id → motive target scalar)
    {target : TypeTarget} (h : set.HasAnswer target scalar) : motive target scalar := by
  have hbuiltin : ∀ {target : TypeTarget} {scalar}, target.id? = none →
      set.HasAnswer target scalar → motive target scalar := by
    intro target scalar hnone hanswer
    cases target with
    | builtin type =>
        cases hanswer
        exact builtin type
    | simple id => cases hnone
    | complex id => cases hnone
  have hanswers : ∀ {id : TypeId} {scalar}, set.scalarRule.answer id = .ok scalar →
      ∀ target : TypeTarget, target.id? = some id → motive target scalar := by
    apply Rule.answer_induction
    intro id scalar happly ih target hid
    have hacyclic : ¬ set.ScalarNeeds id id := fun hneeds =>
      Rule.not_transGen_self (Rule.answer_of_apply happly) (.single hneeds)
    obtain ⟨type, htype, hbody⟩ := bind_eq_ok_iff.mp happly
    rw [given_eq] at htype
    refine step id type scalar htype hacyclic ?_ target hid
    apply ((bodyScalar_eq_ok_iff (hmembers id type htype)).mp hbody).imp
    intro source hsource other hother
    refine ⟨hsource, ?_⟩
    cases hnext : source.id? with
    | none => exact hbuiltin hnext hother
    | some next =>
        rw [Answered, Rules.scalarAt_eq_of_id? hnext] at hother
        exact ih next other ⟨type, source, htype, hsource, hnext⟩ hother source hnext
  cases hid : target.id? with
  | none => exact hbuiltin hid h
  | some id =>
      rw [HasAnswer, Answered, Rules.scalarAt_eq_of_id? hid] at h
      exact hanswers h target hid

theorem derives_of_hasAnswer (hmembers : set.UnionsHaveMembers) {target : TypeTarget}
    (h : set.HasAnswer target scalar) : target.InTable → set.Derives target scalar := by
  apply h.induction hmembers (motive := fun target scalar => target.InTable →
    set.Derives target scalar)
  · intro type htable
    exact .builtin htable
  · intro id type scalar htype _ hscalar target hid _
    apply derives_of_scalarFrom ⟨id, hid, htype⟩ (hmembers id type htype)
    apply hscalar.imp
    rintro source - other ⟨hsource, hderives⟩
    exact hderives (inTable_of_source hsource)

theorem hasAnswer_iff_derives (hmembers : set.UnionsHaveMembers) {target : TypeTarget}
    (htable : target.InTable) : set.HasAnswer target scalar ↔ set.Derives target scalar :=
  ⟨fun h => derives_of_hasAnswer hmembers h htable, hasAnswer_of_derives hmembers⟩

theorem hasAnswer_rightUnique : Relator.RightUnique set.HasAnswer :=
  fun _ _ _ => eq_of_ok

theorem derives_rightUnique (hmembers : set.UnionsHaveMembers) :
    Relator.RightUnique set.Derives := fun _ _ _ h h' =>
  hasAnswer_rightUnique (hasAnswer_of_derives hmembers h) (hasAnswer_of_derives hmembers h')

theorem unionsHaveMembers_of_load {tree : FileTree} {roots : List Path} {limits : Limits}
    {permissive : Bool} (h : load tree roots limits permissive = .ok set) :
    set.UnionsHaveMembers := by
  intro id type htype
  obtain ⟨_, _, _, hmember, _⟩ := @stems_of_load _ _ _ _ _ h .type id type (type?_of_typeDef htype)
  exact hmember

end SchemaSet

end SchemaBinding
