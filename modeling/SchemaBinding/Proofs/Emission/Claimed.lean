import SchemaBinding.Proofs.Emission.Exact
import SchemaBinding.Proofs.Loading.Single

namespace SchemaBinding

namespace Emission

variable {σ : Type} {set : SchemaSet} {options : Options} {sink : Sink σ}

def HasWritten (emission : Emission σ) (key : StructKey) : Prop :=
  ∃ entry ∈ emission.works.structs, (entry.package, entry.name) = key

theorem isEmitted_iff {emission : Emission σ} {package name : String} :
    emission.isEmitted package name = true ↔ (package, name) ∈ emission.claims.keys := by
  rw [← not_iff_not, ← Table.get?_eq_none_iff, isEmitted, Bool.not_eq_true,
    Option.isSome_eq_false_iff, Option.isNone_iff_eq_none]

/-! Where a call breaks off. -/

/-- The walk over a stack fails when it writes the struct of the key. -/
inductive WalkBreaks (set : SchemaSet) (options : Options) (sink : Sink σ) :
    StructKey → Claims → Works σ → List TypeId → Prop
  | here {id : TypeId} {type : TypeDef} {claims : Claims} {works after : Works σ}
      {rest : List TypeId} {error : Error} :
      set.typeDef id = .ok type → type.structKey options ∉ claims.keys →
        Works.writeStruct set options sink id type works = .error error after →
          WalkBreaks set options sink (type.structKey options) claims works (id :: rest)
  | passed {key : StructKey} {id : TypeId} {type : TypeDef} {claims : Claims} {works : Works σ}
      {rest : List TypeId} :
      set.typeDef id = .ok type → type.structKey options ∈ claims.keys →
        WalkBreaks set options sink key claims works rest →
          WalkBreaks set options sink key claims works (id :: rest)
  | written {key : StructKey} {id : TypeId} {type : TypeDef} {claims : Claims}
      {works after : Works σ} {rest referenced : List TypeId} :
      set.typeDef id = .ok type → type.structKey options ∉ claims.keys →
        Works.writeStruct set options sink id type works = .ok referenced after →
          WalkBreaks set options sink key (claims.put (type.structKey options) id) after
            (referenced ++ rest) →
              WalkBreaks set options sink key claims works (id :: rest)

/-- The emission from a seed fails when it writes the struct of the key. -/
def SeedBreaks (set : SchemaSet) (options : Options) (sink : Sink σ) (key : StructKey)
    (emission : Emission σ) : Seed → Prop
  | .type id => WalkBreaks set options sink key emission.claims emission.works [id]
  | .element id => ∃ type between, elementType set id emission = .ok (.complex type) between ∧
      WalkBreaks set options sink key between.claims between.works [type]

def SeedsBreak (set : SchemaSet) (options : Options) (sink : Sink σ) (key : StructKey) :
    Emission σ → List Seed → Prop
  | _, [] => False
  | emission, seed :: rest => SeedBreaks set options sink key emission seed ∨
      ∃ between, emitSeed set options sink seed emission = .ok () between ∧
        SeedsBreak set options sink key between rest

/-- The call fails when it writes the struct of the key. -/
def Call.Breaks (set : SchemaSet) (options : Options) (sink : Sink σ) (key : StructKey)
    (emission : Emission σ) : Call → Prop
  | .type id => WalkBreaks set options sink key emission.claims emission.works [id]
  | .roots => SeedsBreak set options sink key emission (seeds set options)
  | .newEmitter => False

/-- One of the calls broke off at the key. -/
def BrokeOff (set : SchemaSet) (options : Options) (sink : Sink σ) (emission : Emission σ)
    (calls : List Call) (key : StructKey) : Prop :=
  ∃ done call rest, calls = done ++ call :: rest ∧
    call.Breaks set options sink key (afterCalls set options sink done emission)

section

variable {key : StructKey} {claims : Claims} {works : Works σ} {id : TypeId}
  {rest : List TypeId} {type : TypeDef}

theorem not_walkBreaks_nil : ¬ WalkBreaks set options sink key claims works [] := by
  rintro ⟨⟩

theorem not_walkBreaks_absent {error : Error} (h : set.typeDef id = .error error) :
    ¬ WalkBreaks set options sink key claims works (id :: rest) := by
  rintro (⟨htype, _, _⟩ | ⟨htype, _, _⟩ | ⟨htype, _, _, _⟩) <;> rw [h] at htype <;> cases htype

theorem walkBreaks_claimed_iff (htype : set.typeDef id = .ok type)
    (hclaim : type.structKey options ∈ claims.keys) :
    WalkBreaks set options sink key claims works (id :: rest) ↔
      WalkBreaks set options sink key claims works rest := by
  refine ⟨?_, .passed htype hclaim⟩
  rintro (⟨hfound, hnew, _⟩ | ⟨_, _, hrest⟩ | ⟨hfound, hnew, _, _⟩)
  · cases htype.symm.trans hfound
    exact absurd hclaim hnew
  · exact hrest
  · cases htype.symm.trans hfound
    exact absurd hclaim hnew

theorem walkBreaks_failed_iff {after : Works σ} {error : Error}
    (htype : set.typeDef id = .ok type) (hnew : type.structKey options ∉ claims.keys)
    (hwrite : Works.writeStruct set options sink id type works = .error error after) :
    WalkBreaks set options sink key claims works (id :: rest) ↔
      key = type.structKey options := by
  constructor
  · rintro (⟨hfound, _, _⟩ | ⟨hfound, hclaim, _⟩ | ⟨hfound, _, hdone, _⟩)
    · cases htype.symm.trans hfound
      rfl
    · cases htype.symm.trans hfound
      exact absurd hclaim hnew
    · cases htype.symm.trans hfound
      cases hwrite.symm.trans hdone
  · rintro rfl
    exact .here htype hnew hwrite

theorem walkBreaks_written_iff {after : Works σ} {referenced : List TypeId}
    (htype : set.typeDef id = .ok type) (hnew : type.structKey options ∉ claims.keys)
    (hwrite : Works.writeStruct set options sink id type works = .ok referenced after) :
    WalkBreaks set options sink key claims works (id :: rest) ↔
      WalkBreaks set options sink key (claims.put (type.structKey options) id) after
        (referenced ++ rest) := by
  refine ⟨?_, .written htype hnew hwrite⟩
  rintro (⟨hfound, _, hfailed⟩ | ⟨hfound, hclaim, _⟩ | ⟨hfound, _, hdone, hrest⟩)
  · cases htype.symm.trans hfound
    cases hwrite.symm.trans hfailed
  · cases htype.symm.trans hfound
    exact absurd hclaim hnew
  · cases htype.symm.trans hfound
    cases hwrite.symm.trans hdone
    exact hrest

end

theorem exists_error_of_walkBreaks {key : StructKey} {claims : Claims} {works : Works σ}
    {stack : List TypeId} (h : WalkBreaks set options sink key claims works stack) :
    ∃ error after, walk set options sink claims works stack = .error error after := by
  induction h with
  | here htype hnew hwrite => exact ⟨_, _, by rw [walk_new htype hnew, hwrite]⟩
  | passed htype hclaim _ ih =>
      obtain ⟨error, after, hrest⟩ := ih
      exact ⟨error, after, (walk_claimed htype hclaim).trans hrest⟩
  | written htype hnew hwrite _ ih =>
      obtain ⟨error, after, hrest⟩ := ih
      refine ⟨error, after, ?_⟩
      rw [walk_new htype hnew, hwrite]
      exact hrest

theorem exists_error_of_seedBreaks {key : StructKey} {emission : Emission σ} {seed : Seed}
    (h : SeedBreaks set options sink key emission seed) :
    ∃ error after, emitSeed set options sink seed emission = .error error after := by
  cases seed with
  | type id => exact exists_error_of_walkBreaks h
  | element id =>
      obtain ⟨type, between, htarget, hwalk⟩ := h
      obtain ⟨error, after, heq⟩ := exists_error_of_walkBreaks hwalk
      refine ⟨error, after, ?_⟩
      simp only [emitSeed, emit, Bind.bind, EStateM.bind, htarget, heq]

theorem exists_error_of_seedsBreak {key : StructKey} {emission : Emission σ}
    {seeds : List Seed} (h : SeedsBreak set options sink key emission seeds) :
    ∃ error after, emitSeeds set options sink seeds emission = .error error after := by
  induction seeds generalizing emission with
  | nil => exact h.elim
  | cons seed rest ih =>
      rcases h with hseed | ⟨between, hseed, hrest⟩
      · obtain ⟨error, after, heq⟩ := exists_error_of_seedBreaks hseed
        exact ⟨error, after, by simp only [emitSeeds, Bind.bind, EStateM.bind, heq]⟩
      · obtain ⟨error, after, heq⟩ := ih hrest
        exact ⟨error, after, by simp only [emitSeeds, Bind.bind, EStateM.bind, hseed, heq]⟩

theorem Call.exists_error_of_breaks {key : StructKey} {emission : Emission σ} {call : Call}
    (h : call.Breaks set options sink key emission) :
    ∃ error after, call.run set options sink emission = .error error after := by
  cases call with
  | type id => exact exists_error_of_walkBreaks h
  | roots => exact exists_error_of_seedsBreak h
  | newEmitter => exact h.elim

/-- The keys that are claimed are those that are written, and those that are lost. -/
structure Accounts (set : SchemaSet) (lost : StructKey → Prop) (emission : Emission σ) :
    Prop where
  settled : emission.works.memo.Settled set
  claimed : ∀ key, key ∈ emission.claims.keys ↔ emission.HasWritten key ∨ lost key
  apart : ∀ key, lost key → ¬ emission.HasWritten key

theorem accounts_start (set : SchemaSet) (state : σ) :
    Accounts set (fun _ => False) { works := { sink := state } } where
  settled := Memo.settled_empty set
  claimed := by
    simp [HasWritten, Table.keys]
  apart := by
    rintro _ ⟨⟩

variable {lost : StructKey → Prop}

theorem Accounts.congr {other : StructKey → Prop} {emission : Emission σ}
    (h : Accounts set lost emission) (heq : ∀ key, lost key ↔ other key) :
    Accounts set other emission := by
  obtain rfl : lost = other := funext fun key => propext (heq key)
  exact h

theorem Accounts.remember {emission : Emission σ} (h : Accounts set lost emission) {memo : Memo}
    (hmemo : memo.Settled set) :
    Accounts set lost { emission with works := { emission.works with memo := memo } } :=
  { h with settled := hmemo }

/-- The key of a struct that cannot be written is claimed all the same, and lost with it. -/
theorem Accounts.fail {claims : Claims} {works after : Works σ} {id : TypeId} {type : TypeDef}
    {error : Error} (h : Accounts set lost ⟨claims, works⟩)
    (hnew : type.structKey options ∉ claims.keys)
    (hwrite : Works.writeStruct set options sink id type works = .error error after) :
    Accounts set (fun key => lost key ∨ key = type.structKey options)
      ⟨claims.put (type.structKey options) id, after⟩ := by
  obtain ⟨memo, hmemo, hcases⟩ := Works.writeStruct_cases options sink id type h.settled
  have hstructs : after.structs = works.structs ∧ after.memo = memo := by
    rcases hcases with ⟨_, heq⟩ | ⟨_, _, _, _, rfl, ⟨_, _, _, heq⟩ | ⟨_, _, _, heq⟩⟩
    · cases hwrite.symm.trans heq
      exact ⟨rfl, rfl⟩
    · cases hwrite.symm.trans heq
      exact ⟨rfl, rfl⟩
    · cases hwrite.symm.trans heq
  obtain ⟨hstructs, rfl⟩ := hstructs
  have hwritten : ∀ key, (⟨claims.put (type.structKey options) id, after⟩ : Emission σ).HasWritten
      key ↔ (⟨claims, works⟩ : Emission σ).HasWritten key := by
    intro key
    simp only [HasWritten, hstructs]
  constructor
  case settled => exact hmemo
  case claimed =>
    intro key
    simp only [Table.mem_keys_put, hwritten]
    rw [h.claimed key, or_assoc]
  case apart =>
    rintro key (hlost | rfl) hkey
    · exact h.apart key hlost ((hwritten key).mp hkey)
    · exact hnew ((h.claimed _).mpr (.inl ((hwritten _).mp hkey)))

theorem Accounts.write {claims : Claims} {works after : Works σ} {id : TypeId} {type : TypeDef}
    {referenced : List TypeId} (h : Accounts set lost ⟨claims, works⟩)
    (htype : set.typeDef id = .ok type) (hnew : type.structKey options ∉ claims.keys)
    (hwrite : Works.writeStruct set options sink id type works = .ok referenced after) :
    Accounts set lost ⟨claims.put (type.structKey options) id, after⟩ := by
  obtain ⟨delivery, _, hkey, _, hdelivered⟩ :=
    Works.delivered_of_writeStruct htype h.settled hwrite
  have hwritten : ∀ key, (⟨claims.put (type.structKey options) id, after⟩ : Emission σ).HasWritten
      key ↔ (⟨claims, works⟩ : Emission σ).HasWritten key ∨ key = type.structKey options := by
    intro key
    simp only [HasWritten, hdelivered.structs, List.mem_append, or_and_right, exists_or,
      List.map_cons, List.map_nil, List.mem_singleton, exists_eq_left, ← hkey]
    exact or_congr_right eq_comm
  constructor
  case settled => exact hdelivered.settled
  case claimed =>
    intro key
    simp only [Table.mem_keys_put, hwritten]
    rw [h.claimed key, or_right_comm]
  case apart =>
    intro key hlost hkey
    rcases (hwritten key).mp hkey with hbefore | rfl
    · exact h.apart key hlost hbefore
    · exact hnew ((h.claimed _).mpr (.inr hlost))

theorem Accounts.walk {claims : Claims} {works : Works σ} {stack : List TypeId}
    (h : Accounts set lost ⟨claims, works⟩) :
    Accounts set (fun key => lost key ∨ WalkBreaks set options sink key claims works stack)
      (stateAfter (Emission.walk set options sink claims works stack)) := by
  fun_induction Emission.walk set options sink claims works stack with
  | case1 =>
      apply h.congr
      simp [not_walkBreaks_nil]
  | case2 claims works id rest htype =>
      have habsent : set.typeDef id = .error (.absent .type id.index) := by
        rw [SchemaSet.typeDef, htype]
      apply h.congr
      simp [not_walkBreaks_absent habsent]
  | case3 claims works id rest type htype owner hclaim ih =>
      apply (ih h).congr
      intro key
      rw [walkBreaks_claimed_iff (typeDef_of_type? htype) (Table.mem_keys_of_get? hclaim)]
  | case4 claims works id rest type htype hclaim claimed error written hwrite =>
      have hnew := Table.get?_eq_none_iff.mp hclaim
      apply (h.fail hnew hwrite).congr
      intro key
      rw [walkBreaks_failed_iff (typeDef_of_type? htype) hnew hwrite]
  | case5 claims works id rest type htype hclaim claimed referenced written hwrite _ ih =>
      have hdef := typeDef_of_type? htype
      have hnew := Table.get?_eq_none_iff.mp hclaim
      apply (ih (h.write hdef hnew hwrite)).congr
      intro key
      rw [walkBreaks_written_iff hdef hnew hwrite]

theorem Accounts.emitSeed {emission : Emission σ} (h : Accounts set lost emission)
    (options : Options) (sink : Sink σ) (seed : Seed) :
    Accounts set (fun key => lost key ∨ SeedBreaks set options sink key emission seed)
      (stateAfter (Emission.emitSeed set options sink seed emission)) := by
  cases seed with
  | type id => exact h.walk
  | element id =>
      obtain ⟨memo, hmemo, heq⟩ := elementType_eq h.settled id
      have hbetween := h.remember hmemo
      cases htarget : set.answers.elementType id with
      | error error =>
          rw [htarget] at heq
          simp only [Emission.emitSeed, SeedBreaks, Bind.bind, EStateM.bind, heq]
          apply hbetween.congr
          simp [outcome]
      | ok target =>
          rw [htarget] at heq
          simp only [Emission.emitSeed, SeedBreaks, Bind.bind, EStateM.bind, heq]
          cases target with
          | builtin type =>
              apply hbetween.congr
              simp [outcome]
          | simple type =>
              apply hbetween.congr
              simp [outcome]
          | complex type =>
              refine Accounts.congr hbetween.walk ?_
              simp [outcome]

theorem Accounts.emitSeeds {emission : Emission σ} (h : Accounts set lost emission)
    (options : Options) (sink : Sink σ) (seeds : List Seed) :
    Accounts set (fun key => lost key ∨ SeedsBreak set options sink key emission seeds)
      (stateAfter (Emission.emitSeeds set options sink seeds emission)) := by
  induction seeds generalizing emission lost with
  | nil =>
      apply h.congr
      simp [SeedsBreak]
  | cons seed rest ih =>
      have hseed := h.emitSeed options sink seed
      simp only [Emission.emitSeeds, SeedsBreak, Bind.bind, EStateM.bind]
      cases heq : Emission.emitSeed set options sink seed emission with
      | error error between =>
          rw [heq] at hseed
          apply hseed.congr
          simp
      | ok _ between =>
          rw [heq] at hseed
          apply (ih hseed).congr
          simp [stateAfter, or_assoc]

theorem Accounts.call {emission : Emission σ} (h : Accounts set lost emission)
    (options : Options) (sink : Sink σ) (call : Call) :
    Accounts set (fun key => lost key ∨ call.Breaks set options sink key emission)
      (stateAfter (call.run set options sink emission)) := by
  cases call with
  | type id => exact h.walk
  | roots => exact h.emitSeeds options sink (seeds set options)
  | newEmitter =>
      apply (h.remember (Memo.settled_empty set)).congr
      simp [Call.Breaks]

theorem brokeOff_cons_iff {emission : Emission σ} {call : Call} {calls : List Call}
    {key : StructKey} :
    BrokeOff set options sink emission (call :: calls) key ↔
      call.Breaks set options sink key emission ∨
        BrokeOff set options sink (stateAfter (call.run set options sink emission)) calls key := by
  constructor
  · rintro ⟨done, found, rest, heq, hbreaks⟩
    rcases List.cons_eq_append_iff.mp heq with ⟨rfl, heq⟩ | ⟨before, rfl, rfl⟩
    · cases heq
      exact .inl hbreaks
    · exact .inr ⟨before, found, rest, rfl, hbreaks⟩
  · rintro (hbreaks | ⟨done, found, rest, rfl, hbreaks⟩)
    · exact ⟨[], call, calls, rfl, hbreaks⟩
    · exact ⟨call :: done, found, rest, rfl, hbreaks⟩

theorem Accounts.afterCalls {emission : Emission σ} (h : Accounts set lost emission)
    (options : Options) (sink : Sink σ) (calls : List Call) :
    Accounts set (fun key => lost key ∨ BrokeOff set options sink emission calls key)
      (Emission.afterCalls set options sink calls emission) := by
  induction calls generalizing emission lost with
  | nil =>
      apply h.congr
      simp [BrokeOff]
  | cons call rest ih =>
      apply (ih (h.call options sink call)).congr
      intro key
      rw [brokeOff_cons_iff, or_assoc]

/-- A claim stands for a struct that is written, or for a call that broke off while it wrote the
struct, never for both; and a type whose emission succeeds has its struct written, unless an
earlier call broke off at it. A call that breaks off does not succeed. -/
theorem claimed_iff_written_or_broken (set : SchemaSet) (options : Options) (sink : Sink σ)
    (state : σ) (calls : List Call) :
    let start : Emission σ := { works := { sink := state } }
    let before := afterCalls set options sink calls start
    (∀ package name, before.isEmitted package name = true ↔
      before.HasWritten (package, name) ∨
        BrokeOff set options sink start calls (package, name)) ∧
    (∀ key, BrokeOff set options sink start calls key → ¬ before.HasWritten key) ∧
    (∀ id after, emit set options sink id before = .ok () after →
      ∃ type, set.typeDef id = .ok type ∧ (after.HasWritten (type.structKey options) ↔
        ¬ BrokeOff set options sink start calls (type.structKey options))) ∧
    ∀ key (call : Call) (emission : Emission σ), call.Breaks set options sink key emission →
      ∃ error after, call.run set options sink emission = .error error after := by
  intro start before
  have hbefore := (accounts_start set state).afterCalls options sink calls
  simp only [false_or] at hbefore
  refine ⟨?claims, hbefore.apart, ?emits, fun _ _ _ => Call.exists_error_of_breaks⟩
  case claims =>
    intro package name
    rw [isEmitted_iff]
    exact hbefore.claimed (package, name)
  case emits =>
    intro id after hafter
    obtain ⟨deliveries, hran⟩ := ran_walk hbefore.settled hafter
    obtain ⟨type, htype, hclaimed⟩ := hran.started id (List.mem_singleton_self id)
    have hkept : Accounts set (BrokeOff set options sink start calls) after := by
      have hcall := hbefore.call options sink (.type id)
      rw [Call.run, hafter] at hcall
      apply hcall.congr
      intro key
      apply or_iff_left
      intro hbreaks
      obtain ⟨_, _, hfailed⟩ := Call.exists_error_of_breaks hbreaks
      cases hafter.symm.trans hfailed
    refine ⟨type, htype, ?_⟩
    have hcases := (hkept.claimed _).mp hclaimed
    exact ⟨fun hwritten hbroken => hkept.apart _ hbroken hwritten, hcases.resolve_right⟩

end Emission

/-! An order whose one field has a type that does not exist. -/

namespace Orders

open Emission

def text : String :=
  "<xs:schema xmlns:xs=\"http://www.w3.org/2001/XMLSchema\"><xs:complexType name=\"Order\">" ++
    "<xs:sequence><xs:element name=\"line\" type=\"xs:text\"/></xs:sequence>" ++
    "</xs:complexType></xs:schema>"

def tree : FileTree :=
  ⟨[(⟨.above 0, ["a.xsd"]⟩, .file (.text text))]⟩

def root : Path := ⟨"a.xsd"⟩

def options : Options := { roots := [root], limits := .strict }

def start : Emission (List Sink.GeneratedFile) := { works := { sink := [] } }

def order : TypeId := ⟨0⟩

def key : StructKey := ("schema", "Order")

def Known (set : SchemaSet) : Prop :=
  ((set.typeDef order).toOption.map fun type => (type.structKey options,
    (Works.structFile set options set.answers order type).toOption.isSome)) = some (key, false)

instance : DecidablePred Known := fun _ =>
  inferInstanceAs (Decidable (_ = _))

theorem exists_load : ∃ set, SchemaSet.load tree [root] .strict false = .ok set ∧ Known set := by
  refine SchemaSet.exists_load_single ?_ ?_ ?_ <;> decide +kernel

theorem Known.exists_emit {set : SchemaSet} (h : Known set) :
    ∃ type memo error, set.typeDef order = .ok type ∧ type.structKey options = key ∧
      emit set options Sink.listing order start = .error error
        { claims := Table.put [] key order, works := { memo := memo, sink := [] } } := by
  obtain ⟨type, htype, heq⟩ := Option.map_eq_some_iff.mp h
  obtain ⟨hkey, hnone⟩ := Prod.mk.inj heq
  have htype := eq_ok_of_toOption htype
  have hsettled : start.works.memo.Settled set := Memo.settled_empty set
  obtain ⟨memo, _, hcases⟩ := Works.writeStruct_cases options Sink.listing order type hsettled
  rcases hcases with ⟨error, hwrite⟩ | ⟨file, found, hfile, _⟩
  · refine ⟨type, memo, error, htype, hkey, ?_⟩
    rw [emit, walk_new htype (by simp [start, Table.keys]), hwrite, hkey]
    rfl
  · rw [hfile] at hnone
    cases hnone

end Orders

open Orders

/-- The first emission of an order fails, and leaves the order claimed with nothing written; the
second one succeeds, and writes nothing. -/
theorem Emission.claimed_without_struct :
    ∃ set after again, SchemaSet.load tree [root] .strict false = .ok set ∧
      options.validate = .ok () ∧
      afterCalls set options Sink.listing [.type order] start = after ∧
      after.isEmitted key.1 key.2 = true ∧ after.works.structs = [] ∧
      emit set options Sink.listing order after = .ok () again ∧ again.works.structs = [] ∧
      ∃ type, set.typeDef order = .ok type ∧ type.structKey options = key := by
  obtain ⟨set, hload, hknown⟩ := exists_load
  obtain ⟨type, memo, error, htype, hkey, hemit⟩ := hknown.exists_emit
  let after : Emission (List Sink.GeneratedFile) :=
    { claims := Table.put [] key order, works := { memo := memo, sink := [] } }
  have hclaimed : type.structKey options ∈ after.claims.keys := by
    rw [hkey]
    exact List.mem_singleton_self key
  have hagain : emit set options Sink.listing order after = .ok () after := by
    rw [emit, walk_claimed htype hclaimed, walk]
  exact ⟨set, after, after, hload, by decide +kernel, congrArg stateAfter hemit, rfl, rfl, hagain,
    rfl, type, htype, hkey⟩

end SchemaBinding
