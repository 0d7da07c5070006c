import SchemaBinding.Proofs.Emission.Lasting
import Mathlib.Logic.Relation

namespace SchemaBinding

open Relation (ReflTransGen)

def SchemaSet.Refers (set : SchemaSet) (id next : TypeId) : Prop :=
  next ∈ set.successors id

namespace Emission

variable {σ : Type} {set : SchemaSet} {options : Options} {sink : Sink σ}

def Claimed (set : SchemaSet) (options : Options) (claims : Claims) (id : TypeId) : Prop :=
  ∃ type, set.typeDef id = .ok type ∧ type.structKey options ∈ claims.keys

/-- A run from some types, with the files it handed over. -/
structure Ran (set : SchemaSet) (options : Options) (sink : Sink σ) (before after : Emission σ)
    (starts : List TypeId) (deliveries : List Delivery) : Prop where
  delivered : Works.Delivered set options sink before.works after.works deliveries
  keys : after.claims.keys = before.claims.keys ++ deliveries.map Delivery.key
  nodup : before.claims.keys.Nodup → after.claims.keys.Nodup
  started : ∀ id ∈ starts, Claimed set options after.claims id
  closed : ∀ delivery ∈ deliveries, ∀ next, set.Refers delivery.id next →
    Claimed set options after.claims next
  reached : ∀ delivery ∈ deliveries, ∃ id ∈ starts, ReflTransGen set.Refers id delivery.id

theorem Claimed.mono {first second : Claims} {id : TypeId} (h : Claimed set options first id)
    (hkeys : ∀ key ∈ first.keys, key ∈ second.keys) : Claimed set options second id := by
  obtain ⟨type, htype, hmem⟩ := h
  exact ⟨type, htype, hkeys _ hmem⟩

theorem ran_nil {before after : Emission σ} (hsettled : after.works.memo.Settled set)
    (hclaims : after.claims = before.claims) (hsink : after.works.sink = before.works.sink)
    (hstructs : after.works.structs = before.works.structs) :
    Ran set options sink before after [] [] where
  delivered := Works.delivered_nil hsettled hsink hstructs
  keys := by rw [hclaims, List.map_nil, List.append_nil]
  nodup h := by
    rw [hclaims]
    exact h
  started := by simp
  closed := by simp
  reached := by simp

theorem Ran.mem_keys {before after : Emission σ} {starts : List TypeId}
    {deliveries : List Delivery} (h : Ran set options sink before after starts deliveries)
    {key : StructKey} (hkey : key ∈ before.claims.keys) : key ∈ after.claims.keys := by
  rw [h.keys]
  exact List.mem_append_left _ hkey

theorem Ran.append {before between after : Emission σ} {first second : List TypeId}
    {some more : List Delivery} (hfirst : Ran set options sink before between first some)
    (hsecond : Ran set options sink between after second more) :
    Ran set options sink before after (first ++ second) (some ++ more) where
  delivered := hfirst.delivered.append hsecond.delivered
  keys := by rw [hsecond.keys, hfirst.keys, List.map_append, List.append_assoc]
  nodup h := hsecond.nodup (hfirst.nodup h)
  started id hid := by
    rcases List.mem_append.mp hid with h | h
    · exact (hfirst.started id h).mono fun _ => hsecond.mem_keys
    · exact hsecond.started id h
  closed delivery hdelivery next hnext := by
    rcases List.mem_append.mp hdelivery with h | h
    · exact (hfirst.closed delivery h next hnext).mono fun _ => hsecond.mem_keys
    · exact hsecond.closed delivery h next hnext
  reached delivery hdelivery := by
    rcases List.mem_append.mp hdelivery with h | h
    · obtain ⟨id, hid, hreach⟩ := hfirst.reached delivery h
      exact ⟨id, List.mem_append_left _ hid, hreach⟩
    · obtain ⟨id, hid, hreach⟩ := hsecond.reached delivery h
      exact ⟨id, List.mem_append_right _ hid, hreach⟩

theorem Ran.skip {before after : Emission σ} {id : TypeId} {type : TypeDef}
    {rest : List TypeId} {deliveries : List Delivery}
    (h : Ran set options sink before after rest deliveries) (htype : set.typeDef id = .ok type)
    (hclaim : type.structKey options ∈ before.claims.keys) :
    Ran set options sink before after (id :: rest) deliveries where
  delivered := h.delivered
  keys := h.keys
  nodup := h.nodup
  started other hother := by
    rcases List.mem_cons.mp hother with rfl | hmem
    · exact ⟨type, htype, h.mem_keys hclaim⟩
    · exact h.started other hmem
  closed := h.closed
  reached delivery hdelivery := by
    obtain ⟨other, hother, hreach⟩ := h.reached delivery hdelivery
    exact ⟨other, List.mem_cons_of_mem id hother, hreach⟩

theorem Ran.step {claims : Claims} {before written : Works σ} {after : Emission σ} {id : TypeId}
    {type : TypeDef} {rest : List TypeId} {delivery : Delivery} {deliveries : List Delivery}
    (hwritten : Works.Delivered set options sink before written [delivery])
    (hid : delivery.id = id) (htype : set.typeDef id = .ok type)
    (hkey : delivery.key = type.structKey options)
    (hnew : type.structKey options ∉ claims.keys)
    (h : Ran set options sink ⟨claims.put (type.structKey options) id, written⟩ after
      (set.successors id ++ rest) deliveries) :
    Ran set options sink ⟨claims, before⟩ after (id :: rest) (delivery :: deliveries) where
  delivered := hwritten.append h.delivered
  keys := by
    rw [h.keys, Table.keys_put, if_neg hnew, List.map_cons, hkey, List.append_assoc,
      List.singleton_append]
  nodup hbefore := h.nodup (Table.nodup_keys_put hbefore _ _)
  started other hother := by
    rcases List.mem_cons.mp hother with rfl | hmem
    · exact ⟨type, htype, h.mem_keys (Table.mem_keys_put.mpr (.inr rfl))⟩
    · exact h.started other (List.mem_append_right _ hmem)
  closed found hfound next hnext := by
    rcases List.mem_cons.mp hfound with rfl | hmem
    · rw [hid] at hnext
      exact h.started next (List.mem_append_left _ hnext)
    · exact h.closed found hmem next hnext
  reached found hfound := by
    rcases List.mem_cons.mp hfound with rfl | hmem
    · exact ⟨id, List.mem_cons_self, hid ▸ .refl⟩
    · obtain ⟨other, hother, hreach⟩ := h.reached found hmem
      rcases List.mem_append.mp hother with hnext | hlater
      · exact ⟨id, List.mem_cons_self, .head hnext hreach⟩
      · exact ⟨other, List.mem_cons_of_mem id hlater, hreach⟩

theorem lasting_settled (options : Options) (sink : Sink σ) :
    Lasting set options sink fun emission => emission.works.memo.Settled set where
  settled h := h
  remember _ hmemo := hmemo
  write h _ _ := Works.settled_writeStruct options sink _ _ h

theorem settled_of_walk {claims : Claims} {works : Works σ} {stack : List TypeId}
    {after : Emission σ} (hsettled : works.memo.Settled set)
    (h : walk set options sink claims works stack = .ok () after) :
    after.works.memo.Settled set := by
  have hkept : (stateAfter (walk set options sink claims works stack)).works.memo.Settled set :=
    (lasting_settled options sink).walk hsettled
  rw [h] at hkept
  exact hkept

theorem ran_walk {claims : Claims} {works : Works σ} {stack : List TypeId} {after : Emission σ}
    (hsettled : works.memo.Settled set)
    (h : walk set options sink claims works stack = .ok () after) :
    ∃ deliveries, Ran set options sink ⟨claims, works⟩ after stack deliveries := by
  fun_induction walk set options sink claims works stack with
  | case1 claims works =>
      cases h
      exact ⟨[], ran_nil hsettled rfl rfl rfl⟩
  | case2 => cases h
  | case3 claims works id rest type htype owner hclaim ih =>
      obtain ⟨deliveries, hran⟩ := ih hsettled h
      exact ⟨deliveries, hran.skip (typeDef_of_type? htype) (Table.mem_keys_of_get? hclaim)⟩
  | case4 => cases h
  | case5 claims works id rest type htype hclaim claimed referenced written hwrite _ ih =>
      have hdef := typeDef_of_type? htype
      obtain ⟨delivery, hid, hkey, rfl, hdelivered⟩ :=
        Works.delivered_of_writeStruct hdef hsettled hwrite
      obtain ⟨deliveries, hran⟩ := ih hdelivered.settled h
      have hnew := Table.get?_eq_none_iff.mp hclaim
      exact ⟨delivery :: deliveries, Ran.step hdelivered hid hdef hkey hnew hran⟩

/-- The complex type that a seed starts from. -/
def Seed.type? (set : SchemaSet) : Seed → Option TypeId
  | .type id => some id
  | .element id =>
      match set.answers.elementType id with
      | .ok target => target.complex?
      | .error _ => none

/-- The complex type of a seed, if it has any, can be told. -/
def Seed.Known (set : SchemaSet) : Seed → Prop
  | .type _ => True
  | .element id => ∃ target, set.answers.elementType id = .ok target

theorem Seed.known_of_type? {seed : Seed} {id : TypeId} (h : seed.type? set = some id) :
    seed.Known set := by
  cases seed with
  | type other => trivial
  | element other =>
      simp only [type?] at h
      split at h
      case h_1 target htarget => exact ⟨target, htarget⟩
      case h_2 => cases h

theorem known_of_emitSeed {seed : Seed} {before after : Emission σ}
    (hsettled : before.works.memo.Settled set)
    (h : emitSeed set options sink seed before = .ok () after) : seed.Known set := by
  cases seed with
  | type id => trivial
  | element id =>
      obtain ⟨memo, _, heq⟩ := elementType_eq hsettled id
      simp only [emitSeed, run_bind_eq_ok_iff] at h
      obtain ⟨target, between, htarget, _⟩ := h
      rw [heq] at htarget
      exact ⟨target, (eq_ok_of_outcome htarget).1⟩

theorem walk_nil (claims : Claims) (works : Works σ) :
    walk set options sink claims works [] = .ok () ⟨claims, works⟩ := by
  rw [walk]

theorem emitSeed_eq (options : Options) (sink : Sink σ) {seed : Seed} {before : Emission σ}
    (hsettled : before.works.memo.Settled set) (hknown : seed.Known set) :
    ∃ memo : Memo, memo.Settled set ∧ emitSeed set options sink seed before =
      walk set options sink before.claims { before.works with memo := memo }
        (seed.type? set).toList := by
  cases seed with
  | type id => exact ⟨before.works.memo, hsettled, rfl⟩
  | element id =>
      obtain ⟨target, htarget⟩ := hknown
      obtain ⟨memo, hmemo, heq⟩ := elementType_eq hsettled id
      rw [htarget] at heq
      refine ⟨memo, hmemo, ?_⟩
      simp only [emitSeed, Bind.bind, EStateM.bind, heq, outcome, Seed.type?, htarget]
      cases target with
      | builtin type => exact (walk_nil ..).symm
      | simple type => exact (walk_nil ..).symm
      | complex type => rfl

theorem ran_emitSeed {seed : Seed} {before after : Emission σ}
    (hsettled : before.works.memo.Settled set)
    (h : emitSeed set options sink seed before = .ok () after) :
    ∃ deliveries,
      Ran set options sink before after (seed.type? set).toList deliveries := by
  obtain ⟨memo, hmemo, heq⟩ := emitSeed_eq options sink hsettled (known_of_emitSeed hsettled h)
  rw [heq] at h
  have hlooked : Ran set options sink before
      { before with works := { before.works with memo := memo } } [] [] :=
    ran_nil hmemo rfl rfl rfl
  obtain ⟨deliveries, hran⟩ := ran_walk hmemo h
  exact ⟨deliveries, hlooked.append hran⟩

theorem ran_emitSeeds {seeds : List Seed} {before after : Emission σ}
    (hsettled : before.works.memo.Settled set)
    (h : emitSeeds set options sink seeds before = .ok () after) :
    ∃ deliveries,
      Ran set options sink before after (seeds.filterMap (Seed.type? set)) deliveries := by
  induction seeds generalizing before with
  | nil =>
      cases h
      exact ⟨[], ran_nil hsettled rfl rfl rfl⟩
  | cons seed rest ih =>
      simp only [emitSeeds, run_bind_eq_ok_iff] at h
      obtain ⟨_, between, hseed, hrest⟩ := h
      have hbetween := (lasting_settled options sink).emitSeed seed hsettled
      rw [hseed] at hbetween
      obtain ⟨first, hfirst⟩ := ran_emitSeed hsettled hseed
      obtain ⟨others, hothers⟩ := ih hbetween hrest
      have hstarts : (seed :: rest).filterMap (Seed.type? set) =
          (seed.type? set).toList ++ rest.filterMap (Seed.type? set) := by
        cases hseed : seed.type? set <;> simp [hseed]
      rw [hstarts]
      exact ⟨first ++ others, hfirst.append hothers⟩

/-! Runs that succeed. -/

/-- The files of some types, and of all that these refer to, can be made. -/
structure Writable (set : SchemaSet) (options : Options) (good : TypeId → Prop) : Prop where
  made : ∀ id, good id → ∃ type made, set.typeDef id = .ok type ∧
    Works.structFile set options set.answers id type = .ok made
  closed : ∀ id next, good id → set.Refers id next → good next

variable {good : TypeId → Prop}

theorem exists_walk (hsink : sink.Accepts) (hgood : Writable set options good) {claims : Claims}
    {works : Works σ} {stack : List TypeId} (hstack : ∀ id ∈ stack, good id)
    (hsettled : works.memo.Settled set) :
    ∃ after, walk set options sink claims works stack = .ok () after := by
  fun_induction walk set options sink claims works stack with
  | case1 => exact ⟨_, rfl⟩
  | case2 claims works id rest htype =>
      obtain ⟨type, _, hdef, _⟩ := hgood.made id (hstack id List.mem_cons_self)
      rw [SchemaSet.typeDef, htype] at hdef
      cases hdef
  | case3 claims works id rest type htype owner hclaim ih =>
      exact ih (fun other hother => hstack other (List.mem_cons_of_mem id hother)) hsettled
  | case4 claims works id rest type htype hclaim claimed error written hwrite =>
      obtain ⟨found, ⟨file, referenced⟩, hdef, hfile⟩ :=
        hgood.made id (hstack id List.mem_cons_self)
      rw [typeDef_of_type? htype] at hdef
      cases hdef
      obtain ⟨after, hafter⟩ := Works.exists_writeStruct hsink hsettled hfile
      rw [hwrite] at hafter
      cases hafter
  | case5 claims works id rest type htype hclaim claimed referenced written hwrite _ ih =>
      obtain ⟨delivery, _, _, rfl, hdelivered⟩ :=
        Works.delivered_of_writeStruct (typeDef_of_type? htype) hsettled hwrite
      apply ih _ hdelivered.settled
      intro other hother
      rcases List.mem_append.mp hother with hnext | hlater
      · exact hgood.closed id other (hstack id List.mem_cons_self) hnext
      · exact hstack other (List.mem_cons_of_mem id hlater)

def Seed.Starts (set : SchemaSet) (good : TypeId → Prop) : Seed → Prop
  | .type id => good id
  | .element id => ∃ target, set.answers.elementType id = .ok target ∧
      ∀ next, target.complex? = some next → good next

theorem Seed.Starts.known {seed : Seed} (h : seed.Starts set good) : seed.Known set := by
  cases seed with
  | type id => trivial
  | element id =>
      obtain ⟨target, htarget, _⟩ := h
      exact ⟨target, htarget⟩

theorem Seed.Starts.holds {seed : Seed} (h : seed.Starts set good) {id : TypeId}
    (hid : seed.type? set = some id) : good id := by
  cases seed with
  | type other =>
      cases hid
      exact h
  | element other =>
      obtain ⟨target, htarget, hnext⟩ := h
      simp only [type?, htarget] at hid
      exact hnext id hid

theorem exists_emitSeed (hsink : sink.Accepts) (hgood : Writable set options good) {seed : Seed}
    (hseed : seed.Starts set good) {before : Emission σ}
    (hsettled : before.works.memo.Settled set) :
    ∃ after, emitSeed set options sink seed before = .ok () after := by
  obtain ⟨memo, hmemo, heq⟩ := emitSeed_eq options sink hsettled hseed.known
  rw [heq]
  apply exists_walk hsink hgood _ hmemo
  intro id hid
  exact hseed.holds (Option.mem_toList.mp hid)

/-- A run succeeds if all that it can reach has a file and the sink takes every file. -/
theorem exists_emitSeeds (hsink : sink.Accepts) (hgood : Writable set options good)
    {seeds : List Seed} (hseeds : ∀ seed ∈ seeds, seed.Starts set good) {before : Emission σ}
    (hsettled : before.works.memo.Settled set) :
    ∃ after, emitSeeds set options sink seeds before = .ok () after := by
  induction seeds generalizing before with
  | nil => exact ⟨before, rfl⟩
  | cons seed rest ih =>
      obtain ⟨between, hbetween⟩ :=
        exists_emitSeed hsink hgood (hseeds seed List.mem_cons_self) hsettled
      have hkept := (lasting_settled options sink).emitSeed seed hsettled
      rw [hbetween] at hkept
      obtain ⟨after, hafter⟩ :=
        ih (fun other hother => hseeds other (List.mem_cons_of_mem seed hother)) hkept
      refine ⟨after, ?_⟩
      simp only [emitSeeds, run_bind_eq_ok_iff]
      exact ⟨(), between, hbetween, hafter⟩

end Emission

end SchemaBinding
