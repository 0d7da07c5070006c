import SchemaBinding.Proofs.Report
import SchemaBinding.Proofs.Resolution.Cycle
import SchemaBinding.Proofs.Resolution.Derivation
import SchemaBinding.Proofs.Resolution.Retyped

namespace SchemaBinding

open Relation (ReflTransGen)

namespace SchemaSet

section

variable (set : SchemaSet)

/-- Every member of a union has a scalar, and the union the least one for theirs. -/
structure UnionFrom (has : TypeTarget → Scalar → Prop) (span : Span) (members : List TypeRef)
    (scalar : Scalar) : Prop where
  each : ∀ member ∈ members, ∃ other, set.MemberHas has span member other
  least : ∀ bound, scalar ≤ bound ↔
    ∀ member ∈ members, ∀ other, set.MemberHas has span member other → other ≤ bound

variable {set} {has : TypeTarget → Scalar → Prop} {span : Span} {members : List TypeRef}
  {scalar : Scalar}

theorem MemberHas.unique (hunique : Relator.RightUnique has) {member : TypeRef}
    {first second : Scalar} (h : set.MemberHas has span member first)
    (h' : set.MemberHas has span member second) : first = second := by
  obtain ⟨target, htarget, hfirst⟩ := h
  obtain ⟨other, hother, hsecond⟩ := h'
  cases eq_of_ok htarget hother
  exact hunique hfirst hsecond

theorem memberHas_congr {span' : Span} {reference old : TypeRef}
    (h : set.resolveTypeRef reference span = set.resolveTypeRef old span') :
    set.MemberHas has span reference = set.MemberHas has span' old := by
  funext scalar
  rw [MemberHas, h, MemberHas]

theorem isLUB_scalars_iff (hunique : Relator.RightUnique has) {scalars : TypeRef → Scalar}
    (hscalars : ∀ member ∈ members, set.MemberHas has span member (scalars member)) :
    IsLUB {other | other ∈ members.map scalars} scalar ↔
      set.UnionFrom has span members scalar := by
  have hbounds : ∀ bound, bound ∈ upperBounds {other | other ∈ members.map scalars} ↔
      ∀ member ∈ members, ∀ other, set.MemberHas has span member other → other ≤ bound := by
    intro bound
    constructor
    · intro h member hmember other hother
      rw [← (hscalars member hmember).unique hunique hother]
      exact h (List.mem_map_of_mem hmember)
    · rintro h _ hother
      obtain ⟨member, hmember, rfl⟩ := List.mem_map.mp hother
      exact h member hmember _ (hscalars member hmember)
  rw [isLUB_iff_le_iff]
  constructor
  · intro hleast
    exact ⟨fun member hmember => ⟨scalars member, hscalars member hmember⟩,
      fun bound => (hleast bound).trans (hbounds bound)⟩
  · intro h bound
    exact (h.least bound).trans (hbounds bound).symm

theorem joinsMembers_iff (hunique : Relator.RightUnique has) :
    set.JoinsMembers has span members scalar ↔ set.UnionFrom has span members scalar := by
  constructor
  · rintro ⟨scalars, hscalars, hlub⟩
    exact (isLUB_scalars_iff hunique hscalars).mp hlub
  · intro h
    have : Nonempty Scalar := ⟨.string⟩
    have hmembers := h.each
    choose! scalars hscalars using hmembers
    exact ⟨scalars, hscalars, (isLUB_scalars_iff hunique hscalars).mpr h⟩

theorem exists_unionFrom (hunique : Relator.RightUnique has) (hsome : members ≠ [])
    (hmembers : ∀ member ∈ members, ∃ other, set.MemberHas has span member other) :
    ∃ scalar, set.UnionFrom has span members scalar := by
  have : Nonempty Scalar := ⟨.string⟩
  choose! scalars hscalars using hmembers
  obtain ⟨first, rest, rfl⟩ := List.exists_cons_of_ne_nil hsome
  exact ⟨_, (isLUB_scalars_iff hunique hscalars).mp (Rules.isLUB_foldl _ _)⟩

end

/-! Other members. -/

/-- What members of a union may be replaced by: the same ones in another order and number, or,
in the place of a union, what its own members stand for. -/
inductive Regrouped (set : SchemaSet) (span : Span) : List TypeRef → List TypeRef → Prop
  | reordered {members others : List TypeRef} :
      (∀ member, member ∈ others ↔ member ∈ members) → Regrouped set span members others
  | flattened {front back inner references : List TypeRef} {member : TypeRef} {next : TypeId}
      {nested : TypeDef} : set.resolveTypeRef member span = .ok (.simple next) →
        set.typeDef next = .ok nested → nested.body = .simple (.union inner) →
          List.Forall₂ (fun reference old =>
            set.resolveTypeRef reference span = set.resolveTypeRef old nested.span)
              references inner →
            Regrouped set span (front ++ member :: back) (front ++ references ++ back)

theorem forall_mem_iff_of_forall₂ {α β : Type} {holds : α → Prop} {holds' : β → Prop}
    {items : List α} {others : List β}
    (h : List.Forall₂ (fun item other => holds item ↔ holds' other) items others) :
    (∀ item ∈ items, holds item) ↔ ∀ other ∈ others, holds' other := by
  induction h with
  | nil => simp
  | cons hitem _ ih => rw [List.forall_mem_cons, List.forall_mem_cons, hitem, ih]

section

variable {set : SchemaSet} {has : TypeTarget → Scalar → Prop} {span : Span} {scalar : Scalar}

/-- A union among the members of a union may be replaced by its own members. -/
theorem unionFrom_flattened (hunique : Relator.RightUnique has) {span' : Span}
    {front back inner references : List TypeRef} {member : TypeRef} (hsome : inner ≠ [])
    (hmember : ∀ scalar, set.MemberHas has span member scalar ↔
      set.UnionFrom has span' inner scalar)
    (hsame : List.Forall₂ (fun reference old =>
      set.resolveTypeRef reference span = set.resolveTypeRef old span') references inner) :
    set.UnionFrom has span (front ++ references ++ back) scalar ↔
      set.UnionFrom has span (front ++ member :: back) scalar := by
  have hinner : ∀ holds : (Scalar → Prop) → Prop,
      (∀ reference ∈ references, holds (set.MemberHas has span reference)) ↔
        ∀ old ∈ inner, holds (set.MemberHas has span' old) := by
    intro holds
    apply forall_mem_iff_of_forall₂
    exact hsame.imp fun reference old heq => by rw [memberHas_congr heq]
  have heach : (∀ reference ∈ references, ∃ other, set.MemberHas has span reference other) ↔
      ∃ other, set.MemberHas has span member other := by
    simp only [hinner fun holds => ∃ other, holds other, hmember]
    exact ⟨exists_unionFrom hunique hsome, fun ⟨other, hother⟩ => hother.each⟩
  have hbound : (∃ other, set.MemberHas has span member other) → ∀ bound,
      (∀ reference ∈ references, ∀ other, set.MemberHas has span reference other →
        other ≤ bound) ↔ ∀ other, set.MemberHas has span member other → other ≤ bound := by
    rintro ⟨other, hother⟩ bound
    rw [hinner fun holds => ∀ other, holds other → other ≤ bound,
      ← ((hmember other).mp hother).least bound]
    exact ⟨fun h found hfound => hother.unique hunique hfound ▸ h, fun h => h other hother⟩
  have hall : (∀ item ∈ front ++ references ++ back, ∃ other, set.MemberHas has span item other) ↔
      ∀ item ∈ front ++ member :: back, ∃ other, set.MemberHas has span item other := by
    simp only [List.forall_mem_append, List.forall_mem_cons, heach, and_assoc]
  have hbounds : (∃ other, set.MemberHas has span member other) → ∀ bound,
      (∀ item ∈ front ++ references ++ back, ∀ other, set.MemberHas has span item other →
        other ≤ bound) ↔ ∀ item ∈ front ++ member :: back, ∀ other,
          set.MemberHas has span item other → other ≤ bound := by
    intro hfound bound
    simp only [List.forall_mem_append, List.forall_mem_cons, hbound hfound bound, and_assoc]
  constructor
  · rintro ⟨hitems, hleast⟩
    have hmembers := hall.mp hitems
    exact ⟨hmembers, fun bound => (hleast bound).trans (hbounds (hmembers member (by simp)) bound)⟩
  · rintro ⟨hmembers, hleast⟩
    exact ⟨hall.mpr hmembers,
      fun bound => (hleast bound).trans (hbounds (hmembers member (by simp)) bound).symm⟩

theorem Regrouped.ne_nil {members others : List TypeRef}
    (h : set.Regrouped span members others) (hmembers : set.UnionsHaveMembers)
    (hsome : members ≠ []) : others ≠ [] := by
  cases h with
  | reordered hsame =>
      obtain ⟨member, hmember⟩ := List.exists_mem_of_ne_nil _ hsome
      exact List.ne_nil_of_mem ((hsame member).mpr hmember)
  | flattened _ hnext hbody hall =>
      have hinner := hmembers _ _ hnext _ hbody
      have hreferences := List.ne_nil_of_length_pos
        (hall.length_eq ▸ List.length_pos_of_ne_nil hinner)
      simp [hreferences]

/-- Members that are regrouped come to the same, if unions among them do to what theirs do. -/
theorem Regrouped.unionFrom_iff {members others : List TypeRef}
    (h : set.Regrouped span members others)
    (hunique : Relator.RightUnique has) (hmembers : set.UnionsHaveMembers)
    (hnested : ∀ member ∈ members, ∀ next nested inner,
      set.resolveTypeRef member span = .ok (.simple next) → set.typeDef next = .ok nested →
        nested.body = .simple (.union inner) → ∀ scalar,
          has (.simple next) scalar ↔ set.UnionFrom has nested.span inner scalar) :
    set.UnionFrom has span others scalar ↔ set.UnionFrom has span members scalar := by
  cases h with
  | reordered hsame =>
      constructor
      · rintro ⟨heach, hleast⟩
        simp only [hsame] at heach hleast
        exact ⟨heach, hleast⟩
      · rintro ⟨heach, hleast⟩
        simp only [← hsame] at heach hleast
        exact ⟨heach, hleast⟩
  | @flattened front back inner references member next nested hresolve hnext hbody hsame =>
      refine unionFrom_flattened hunique (hmembers next nested hnext _ hbody) ?_ hsame
      intro scalar
      rw [← hnested member (by simp) next nested inner hresolve hnext hbody scalar]
      constructor
      · rintro ⟨target, htarget, hscalar⟩
        cases eq_of_ok hresolve htarget
        exact hscalar
      · intro hscalar
        exact ⟨_, hresolve, hscalar⟩

end

/-- The set in which a type is a union of other members. -/
def withMembers (set : SchemaSet) (id : TypeId) (others : List TypeRef) : SchemaSet :=
  { set with
    model := { set.model with
      types := set.model.types.modify id.index fun type =>
        { type with body := .simple (.union others) } } }

/-- A type of the set is a union, and has other members that it may be given. -/
structure Regroups (set : SchemaSet) (id : TypeId) (type : TypeDef)
    (members others : List TypeRef) : Prop where
  typeDef : set.typeDef id = .ok type
  body : type.body = .simple (.union members)
  regrouped : set.Regrouped type.span members others

/-- One set comes from another by regrouping the members of a union. -/
def RegroupsTo (set next : SchemaSet) : Prop :=
  ∃ id type members others, set.Regroups id type members others ∧
    next = set.withMembers id others

section

variable {set : SchemaSet} {id : TypeId} {type : TypeDef} {members others : List TypeRef}

theorem type?_withMembers (set : SchemaSet) (id : TypeId) (others : List TypeRef)
    (other : TypeId) :
    (set.withMembers id others).model.type? other = (set.model.type? other).map fun type =>
      if other = id then { type with body := .simple (.union others) } else type := by
  have hget : (set.withMembers id others).model.type? other =
      if id.index = other.index then (set.model.type? other).map fun type =>
        { type with body := .simple (.union others) }
      else set.model.type? other :=
    Array.getElem?_modify
  have hindex : id.index = other.index ↔ other = id :=
    ⟨fun heq => (Id.eq_of_index heq).symm, fun heq => heq ▸ rfl⟩
  rw [hget]
  simp only [hindex]
  split <;> simp

theorem typeDef_withMembers_of_ne {other : TypeId} (h : other ≠ id) :
    (set.withMembers id others).typeDef other = set.typeDef other := by
  rw [typeDef, type?_withMembers]
  simp [h, typeDef]

theorem typeDef_withMembers_self (h : set.typeDef id = .ok type) :
    (set.withMembers id others).typeDef id =
      .ok { type with body := .simple (.union others) } := by
  rw [typeDef, type?_withMembers]
  unfold typeDef at h
  split at h
  case h_1 found hfound =>
      cases h
      simp [hfound]
  case h_2 => cases h

variable (htype : set.typeDef id = .ok type) (hbody : type.body = .simple (.union members))

include htype hbody

theorem typeTarget_withMembers (other : TypeId) :
    (set.withMembers id others).typeTarget other = set.typeTarget other := by
  by_cases heq : other = id
  · subst heq
    rw [typeTarget, typeTarget, typeDef_withMembers_self htype, htype]
    simp [TypeDef.isComplex, hbody, bind, Except.bind]
  · rw [typeTarget, typeTarget, typeDef_withMembers_of_ne heq]

theorem resolveTypeName_withMembers (name : QName) (span : Span) :
    (set.withMembers id others).resolveTypeName name span = set.resolveTypeName name span := by
  have hresolve : ∀ kind name span, (set.withMembers id others).resolve kind name span =
      set.resolve kind name span := set.resolve_withModel _
  have htarget : (set.withMembers id others).typeTarget = set.typeTarget :=
    funext (typeTarget_withMembers htype hbody)
  rw [resolveTypeName, hresolve, htarget]
  rfl

theorem resolveTypeRef_withMembers (reference : TypeRef) (span : Span) :
    (set.withMembers id others).resolveTypeRef reference span =
      set.resolveTypeRef reference span := by
  cases reference with
  | named name => exact resolveTypeName_withMembers htype hbody name span
  | inline other => exact typeTarget_withMembers htype hbody other

theorem scalarFrom_withMembers {has : TypeTarget → Scalar → Prop} {other : TypeDef}
    {scalar : Scalar} :
    (set.withMembers id others).ScalarFrom has other scalar ↔
      set.ScalarFrom has other scalar := by
  have hjoins : (set.withMembers id others).JoinsMembers = set.JoinsMembers := by
    funext has span members scalar
    simp only [JoinsMembers, MemberHas, resolveTypeRef_withMembers htype hbody]
  have hbase : ∀ derivation, Rules.contentBase (set.withMembers id others) derivation =
      Rules.contentBase set derivation := by
    intro derivation
    unfold Rules.contentBase
    simp only [resolveTypeName_withMembers htype hbody, typeTarget_withMembers htype hbody]
  unfold ScalarFrom
  simp only [resolveTypeRef_withMembers htype hbody, hjoins, hbase]

end

theorem scalarFrom_union_iff {set : SchemaSet} {has : TypeTarget → Scalar → Prop}
    (hunique : Relator.RightUnique has) {type : TypeDef} {members : List TypeRef}
    (hbody : type.body = .simple (.union members)) {scalar : Scalar} :
    set.ScalarFrom has type scalar ↔ set.UnionFrom has type.span members scalar := by
  rw [ScalarFrom, hbody]
  exact joinsMembers_iff hunique

namespace Regroups

variable {set : SchemaSet} {id : TypeId} {type : TypeDef} {members others : List TypeRef}
  (h : set.Regroups id type members others) (hmembers : set.UnionsHaveMembers)

include h hmembers

theorem unionsHaveMembers : (set.withMembers id others).UnionsHaveMembers := by
  intro other found hfound
  by_cases heq : other = id
  · subst heq
    rw [typeDef_withMembers_self h.typeDef] at hfound
    cases hfound
    rintro _ hbody
    cases hbody
    exact h.regrouped.ne_nil hmembers (hmembers other type h.typeDef _ h.body)
  · rw [typeDef_withMembers_of_ne heq] at hfound
    exact hmembers other found hfound

/-- A scalar is still answered after the change. A union that has one is no member of itself, so
that what is put in the place of a member is not changed itself. -/
theorem hasAnswer_after {target : TypeTarget} {scalar : Scalar}
    (hscalar : set.HasAnswer target scalar) :
    (set.withMembers id others).HasAnswer target scalar := by
  have hmembers' := h.unionsHaveMembers hmembers
  apply hscalar.induction hmembers (motive := (set.withMembers id others).HasAnswer)
  · intro type
    rfl
  · intro other found scalar hfound hacyclic hfrom target hid
    have hfrom : set.ScalarFrom (set.withMembers id others).HasAnswer found scalar :=
      hfrom.imp fun _ _ _ hboth => hboth.2
    by_cases heq : other = id
    · subst heq
      cases eq_of_ok hfound h.typeDef
      have hself : (set.withMembers other others).typeDef other =
          .ok { type with body := .simple (.union others) } := typeDef_withMembers_self h.typeDef
      rw [hasAnswer_iff ⟨other, hid, hself⟩ (hmembers' other _ hself),
        scalarFrom_withMembers h.typeDef h.body, scalarFrom_union_iff hasAnswer_rightUnique rfl]
      apply (h.regrouped.unionFrom_iff hasAnswer_rightUnique hmembers ?_).mpr
        ((scalarFrom_union_iff hasAnswer_rightUnique h.body).mp hfrom)
      intro member hmember next nested inner hresolve hnext hbody scalar
      -- a union with a scalar is no member of itself, so its members are as they were
      have hne : next ≠ other := by
        rintro rfl
        refine hacyclic ⟨type, .simple next, h.typeDef, ?_, rfl⟩
        rw [scalarSources, h.body]
        exact List.mem_map.mpr ⟨member, hmember, hresolve⟩
      have hsame : (set.withMembers other others).typeDef next = .ok nested := by
        rw [typeDef_withMembers_of_ne hne, hnext]
      rw [hasAnswer_iff ⟨next, rfl, hsame⟩ (hmembers' next nested hsame),
        scalarFrom_withMembers h.typeDef h.body, scalarFrom_union_iff hasAnswer_rightUnique hbody]
    · have hsame : (set.withMembers id others).typeDef other = .ok found := by
        rw [typeDef_withMembers_of_ne heq, hfound]
      rw [hasAnswer_iff ⟨other, hid, hsame⟩ (hmembers' other found hsame),
        scalarFrom_withMembers h.typeDef h.body]
      exact hfrom

theorem hasAnswer_before {target : TypeTarget} {scalar : Scalar}
    (hscalar : (set.withMembers id others).HasAnswer target scalar) :
    set.HasAnswer target scalar := by
  apply hscalar.induction (h.unionsHaveMembers hmembers) (motive := set.HasAnswer)
  · intro type
    rfl
  · intro other found scalar hfound _ hfrom target hid
    have hbefore : set.ScalarFrom set.HasAnswer found scalar :=
      (scalarFrom_withMembers h.typeDef h.body).mp (hfrom.imp fun _ _ _ hboth => hboth.2)
    by_cases heq : other = id
    · subst heq
      cases eq_of_ok hfound (typeDef_withMembers_self h.typeDef)
      rw [scalarFrom_union_iff hasAnswer_rightUnique rfl] at hbefore
      rw [SchemaSet.hasAnswer_iff ⟨other, hid, h.typeDef⟩ (hmembers other type h.typeDef),
        scalarFrom_union_iff hasAnswer_rightUnique h.body]
      apply (h.regrouped.unionFrom_iff hasAnswer_rightUnique hmembers ?_).mp hbefore
      intro member _ next nested inner _ hnext hbody scalar
      rw [SchemaSet.hasAnswer_iff ⟨next, rfl, hnext⟩ (hmembers next nested hnext),
        scalarFrom_union_iff hasAnswer_rightUnique hbody]
    · rw [typeDef_withMembers_of_ne heq] at hfound
      exact (SchemaSet.hasAnswer_iff ⟨other, hid, hfound⟩ (hmembers other found hfound)).mpr hbefore

theorem hasAnswer_iff {target : TypeTarget} {scalar : Scalar} :
    (set.withMembers id others).HasAnswer target scalar ↔ set.HasAnswer target scalar :=
  ⟨h.hasAnswer_before hmembers, h.hasAnswer_after hmembers⟩

end Regroups

/-- However often members are regrouped, the scalars stay. -/
theorem hasAnswer_iff_of_regrouped {set next : SchemaSet} (hmembers : set.UnionsHaveMembers)
    (h : ReflTransGen RegroupsTo set next) :
    next.UnionsHaveMembers ∧
      ∀ target scalar, next.HasAnswer target scalar ↔ set.HasAnswer target scalar := by
  induction h with
  | refl => exact ⟨hmembers, fun _ _ => Iff.rfl⟩
  | tail _ hstep ih =>
      obtain ⟨hbetween, hsame⟩ := ih
      obtain ⟨id, type, members, others, hchange, rfl⟩ := hstep
      exact ⟨hchange.unionsHaveMembers hbetween, fun target scalar =>
        (hchange.hasAnswer_iff hbetween).trans (hsame target scalar)⟩

end SchemaSet

namespace Resolving

/-- In a loaded set, whatever was asked before, the scalar of a type is answered exactly if it can
be derived; at most one can; and it stays the same when members of unions are regrouped. -/
theorem scalars_derived {tree : FileTree} {roots : List Path} {limits : Limits}
    {permissive : Bool} {set : SchemaSet}
    (hset : SchemaSet.load tree roots limits permissive = .ok set) {memo : Memo}
    (hmemo : memo.Reachable set) :
    (∀ target : TypeTarget, target.InTable → ∀ scalar,
      (scalarOf set target).result memo = .ok scalar ↔ set.Derives target scalar) ∧
    (∀ reference span target, set.resolveTypeRef reference span = .ok target →
      target.InTable) ∧
    Relator.RightUnique set.Derives ∧
    ∀ next, ReflTransGen SchemaSet.RegroupsTo set next → ∀ other : Memo, other.Reachable next →
      ∀ target scalar, (scalarOf next target).result other = .ok scalar ↔
        (scalarOf set target).result memo = .ok scalar := by
  have hmembers := SchemaSet.unionsHaveMembers_of_load hset
  have hanswer : ∀ {set : SchemaSet} {memo : Memo}, memo.Reachable set → ∀ target,
      (scalarOf set target).result memo = Rules.scalarAt set.scalarRule.answer target :=
    fun hmemo target => result_of_agrees hmemo.settled (agrees_scalarOf rfl target)
  refine ⟨?_, fun _ _ _ => SchemaSet.inTable_of_resolveTypeRef,
    SchemaSet.derives_rightUnique hmembers, ?_⟩
  · intro target htable scalar
    rw [hanswer hmemo]
    exact SchemaSet.hasAnswer_iff_derives hmembers htable
  · intro next hnext other hother target scalar
    rw [hanswer hmemo, hanswer hother]
    exact (SchemaSet.hasAnswer_iff_of_regrouped hmembers hnext).2 target scalar

end Resolving

/-! A union among the members of a union. -/

namespace NestedUnion

open SchemaSet

def text : String :=
  "<xs:schema xmlns:xs=\"http://www.w3.org/2001/XMLSchema\"><xs:simpleType name=\"Size\">" ++
    "<xs:union memberTypes=\"xs:int\"><xs:simpleType>" ++
    "<xs:union memberTypes=\"xs:boolean xs:int\"/>" ++
    "</xs:simpleType></xs:union></xs:simpleType></xs:schema>"

def tree : FileTree :=
  ⟨[(⟨.above 0, ["a.xsd"]⟩, .file (.text text))]⟩

def loaded : Except Error Loading :=
  Loading.supply ⟨{}, []⟩ .strict false ⟨.file ⟨"a.xsd"⟩, none⟩ (.ok text)

def builtin (name : String) : TypeRef :=
  .named ⟨some xsdNamespace, name⟩

def membersAt? (set : SchemaSet) (id : TypeId) : Option (List TypeRef) :=
  match (set.typeDef id).toOption.map TypeDef.body with
  | some (.simple (.union members)) => some members
  | _ => none

def Known (next : Loading) : Prop :=
  next.pending = [] ∧ membersAt? next.set ⟨0⟩ = some [builtin "boolean", builtin "int"] ∧
    membersAt? next.set ⟨1⟩ = some [builtin "int", .inline ⟨0⟩]

instance : DecidablePred Known := fun _ =>
  inferInstanceAs (Decidable (_ ∧ _))

theorem exists_loaded : ∃ next, loaded = .ok next ∧ Known next := by
  exact exists_ok_of_map (by decide +kernel)

theorem exists_union {set : SchemaSet} {id : TypeId} {members : List TypeRef}
    (h : membersAt? set id = some members) :
    ∃ type, set.typeDef id = .ok type ∧ type.body = .simple (.union members) := by
  unfold membersAt? at h
  split at h
  case h_1 found hfound =>
      cases h
      obtain ⟨type, htype, hbody⟩ := Option.map_eq_some_iff.mp hfound
      exact ⟨type, eq_ok_of_toOption htype, hbody⟩
  case h_2 => cases h

def targets : TypeRef → TypeTarget
  | .inline id => .simple id
  | .named name =>
      if name.localName = "int" then .builtin ⟨"int", .integer⟩ else .builtin ⟨"boolean", .boolean⟩

def scalars : TypeRef → Scalar
  | .inline _ => .string
  | .named name => if name.localName = "int" then .integer else .boolean

theorem resolve_builtin (set : SchemaSet) (span : Span) {name : String}
    (hname : name ∈ ["boolean", "int"]) :
    set.resolveTypeRef (builtin name) span = .ok (targets (builtin name)) ∧
      set.Derives (targets (builtin name)) (scalars (builtin name)) := by
  rcases List.mem_pair.mp hname with rfl | rfl
  · exact ⟨rfl, .builtin rfl⟩
  · exact ⟨rfl, .builtin rfl⟩

theorem derives_string {set : SchemaSet} {id : TypeId} {type : TypeDef} {members : List TypeRef}
    (htype : set.typeDef id = .ok type) (hbody : type.body = .simple (.union members))
    (hmembers : ∀ member ∈ members, set.resolveTypeRef member type.span = .ok (targets member) ∧
      set.Derives (targets member) (scalars member)) {first second : TypeRef}
    (hfirst : first ∈ members) (hsecond : second ∈ members)
    (hne : scalars first ≠ scalars second) : set.Derives (.simple id) .string :=
  .differing targets scalars ⟨id, rfl, htype⟩ hbody (fun member hmember =>
    (hmembers member hmember).1) (fun member hmember => (hmembers member hmember).2) hfirst hsecond
      hne

variable {next : Loading} (h : Known next)

include h

theorem Known.inner (span : Span) :
    next.set.resolveTypeRef (.inline ⟨0⟩) span = .ok (.simple ⟨0⟩) ∧
      next.set.Derives (.simple ⟨0⟩) .string := by
  obtain ⟨type, htype, hbody⟩ := exists_union h.2.1
  constructor
  · change next.set.typeTarget ⟨0⟩ = _
    rw [typeTarget, htype]
    simp only [TypeDef.isComplex, hbody, bind, Except.bind]
    rfl
  · refine derives_string htype hbody (fun member hmember => ?_) List.mem_cons_self
      (List.mem_cons_of_mem _ List.mem_cons_self) (by decide)
    rcases List.mem_pair.mp hmember with rfl | rfl
    · exact resolve_builtin _ _ (by decide)
    · exact resolve_builtin _ _ (by decide)

theorem Known.derives : next.set.Derives (.simple ⟨1⟩) .string := by
  obtain ⟨type, htype, hbody⟩ := exists_union h.2.2
  refine derives_string htype hbody (fun member hmember => ?_) List.mem_cons_self
    (List.mem_cons_of_mem _ List.mem_cons_self) (by decide)
  rcases List.mem_pair.mp hmember with rfl | rfl
  · exact resolve_builtin _ _ (by decide)
  · exact h.inner type.span

theorem Known.regroupsTo : RegroupsTo next.set
    (next.set.withMembers ⟨1⟩ [builtin "int", builtin "boolean", builtin "int"]) := by
  obtain ⟨inner, hinner, hmembers⟩ := exists_union h.2.1
  obtain ⟨outer, houter, hbody⟩ := exists_union h.2.2
  have hsame : List.Forall₂ (fun reference old => next.set.resolveTypeRef reference outer.span =
      next.set.resolveTypeRef old inner.span) [builtin "boolean", builtin "int"]
        [builtin "boolean", builtin "int"] :=
    .cons rfl (.cons rfl .nil)
  have hregrouped : next.set.Regrouped outer.span ([builtin "int"] ++ .inline ⟨0⟩ :: [])
      ([builtin "int"] ++ [builtin "boolean", builtin "int"] ++ []) :=
    .flattened (h.inner outer.span).1 hinner hmembers hsame
  exact ⟨⟨1⟩, outer, _, _, ⟨houter, hbody, hregrouped⟩, rfl⟩

end NestedUnion

theorem Resolving.scalars_derived_nested : ∃ set next,
    SchemaSet.load NestedUnion.tree [⟨"a.xsd"⟩] .strict false = .ok set ∧
      ReflTransGen SchemaSet.RegroupsTo set next ∧ next.typeDef ⟨1⟩ ≠ set.typeDef ⟨1⟩ ∧
      (scalarOf set (.simple ⟨1⟩)).result {} = .ok .string ∧
      (scalarOf next (.simple ⟨1⟩)).result {} = .ok .string := by
  obtain ⟨loading, hloaded, hknown⟩ := NestedUnion.exists_loaded
  have hset : SchemaSet.load NestedUnion.tree [⟨"a.xsd"⟩] .strict false = .ok loading.set :=
    SchemaSet.load_of_supply (Location.readFrom_single _) hloaded hknown.1
  have hstep := ReflTransGen.single hknown.regroupsTo
  obtain ⟨hderived, _, _, hsame⟩ := scalars_derived hset .empty
  have hscalar := (hderived (.simple ⟨1⟩) trivial .string).mpr hknown.derives
  refine ⟨loading.set, _, hset, hstep, ?_, hscalar,
    (hsame _ hstep {} .empty (.simple ⟨1⟩) .string).mpr hscalar⟩
  obtain ⟨type, htype, hbody⟩ := NestedUnion.exists_union hknown.2.2
  rw [SchemaSet.typeDef_withMembers_self htype, htype]
  intro heq
  have hbodies := congrArg TypeDef.body (Except.ok.inj heq)
  rw [hbody] at hbodies
  cases hbodies

end SchemaBinding
