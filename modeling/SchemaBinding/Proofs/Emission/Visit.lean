import SchemaBinding.Proofs.Emission.Complete

namespace SchemaBinding

namespace Emission

variable {σ : Type} {set : SchemaSet} {options : Options} {sink : Sink σ}

abbrev Ending (σ : Type) := EStateM.Result Error (Emission σ) Unit

mutual

/-- A visit to a type ends in some way. A type whose claim is taken is passed over; another is
claimed and written, and then its base is visited and the types of its fields in order. -/
inductive Visits (set : SchemaSet) (options : Options) (sink : Sink σ) :
    TypeId → Emission σ → Ending σ → Prop
  | absent {id : TypeId} {emission : Emission σ} {error : Error} :
      set.typeDef id = .error error → Visits set options sink id emission (.error error emission)
  | claimed {id : TypeId} {type : TypeDef} {emission : Emission σ} :
      set.typeDef id = .ok type → type.structKey options ∈ emission.claims.keys →
        Visits set options sink id emission (.ok () emission)
  | failed {id : TypeId} {type : TypeDef} {emission : Emission σ} {error : Error}
      {works : Works σ} :
      set.typeDef id = .ok type → type.structKey options ∉ emission.claims.keys →
        Works.writeStruct set options sink id type emission.works = .error error works →
          Visits set options sink id emission
            (.error error ⟨emission.claims.put (type.structKey options) id, works⟩)
  | written {id : TypeId} {type : TypeDef} {emission : Emission σ} {referenced : List TypeId}
      {works : Works σ} {ending : Ending σ} :
      set.typeDef id = .ok type → type.structKey options ∉ emission.claims.keys →
        Works.writeStruct set options sink id type emission.works = .ok referenced works →
          VisitsAll set options sink (set.successors id)
            ⟨emission.claims.put (type.structKey options) id, works⟩ ending →
              Visits set options sink id emission ending

/-- Visits to types one after another, up to the first that fails. -/
inductive VisitsAll (set : SchemaSet) (options : Options) (sink : Sink σ) :
    List TypeId → Emission σ → Ending σ → Prop
  | nil {emission : Emission σ} : VisitsAll set options sink [] emission (.ok () emission)
  | failed {id : TypeId} {rest : List TypeId} {emission between : Emission σ} {error : Error} :
      Visits set options sink id emission (.error error between) →
        VisitsAll set options sink (id :: rest) emission (.error error between)
  | cons {id : TypeId} {rest : List TypeId} {emission between : Emission σ}
      {ending : Ending σ} :
      Visits set options sink id emission (.ok () between) →
        VisitsAll set options sink rest between ending →
          VisitsAll set options sink (id :: rest) emission ending

end

section

variable {claims : Claims} {works : Works σ} {id : TypeId} {rest : List TypeId} {type : TypeDef}

theorem walk_absent {error : Error} (h : set.typeDef id = .error error) :
    walk set options sink claims works (id :: rest) = .error error ⟨claims, works⟩ := by
  rw [walk]
  split
  case h_1 hnone =>
      rw [SchemaSet.typeDef, hnone] at h
      cases h
      rfl
  case h_2 found hfound =>
      rw [typeDef_of_type? hfound] at h
      cases h

theorem walk_claimed (htype : set.typeDef id = .ok type)
    (hclaim : type.structKey options ∈ claims.keys) :
    walk set options sink claims works (id :: rest) =
      walk set options sink claims works rest := by
  rw [walk]
  split
  case h_1 hnone =>
      rw [SchemaSet.type?_of_typeDef htype] at hnone
      cases hnone
  case h_2 found hfound =>
      rw [SchemaSet.type?_of_typeDef htype] at hfound
      cases hfound
      split
      case h_1 => rfl
      case h_2 hnew => exact absurd hclaim (Table.get?_eq_none_iff.mp hnew)

theorem walk_new (htype : set.typeDef id = .ok type)
    (hnew : type.structKey options ∉ claims.keys) :
    walk set options sink claims works (id :: rest) =
      match Works.writeStruct set options sink id type works with
      | .error error works => .error error ⟨claims.put (type.structKey options) id, works⟩
      | .ok referenced works =>
          walk set options sink (claims.put (type.structKey options) id) works
            (referenced ++ rest) := by
  rw [walk]
  split
  case h_1 hnone =>
      rw [SchemaSet.type?_of_typeDef htype] at hnone
      cases hnone
  case h_2 found hfound =>
      rw [SchemaSet.type?_of_typeDef htype] at hfound
      cases hfound
      split
      case h_1 hclaim => exact absurd (Table.mem_keys_of_get? hclaim) hnew
      case h_2 => rfl

theorem walk_append {first second : List TypeId} :
    walk set options sink claims works (first ++ second) =
      match walk set options sink claims works first with
      | .error error emission => .error error emission
      | .ok () emission => walk set options sink emission.claims emission.works second := by
  fun_induction walk set options sink claims works first with
  | case1 => rfl
  | case2 claims works id rest htype =>
      have habsent : set.typeDef id = .error (.absent .type id.index) := by
        rw [SchemaSet.typeDef, htype]
      exact walk_absent habsent
  | case3 claims works id rest type htype owner hclaim ih =>
      rw [List.cons_append,
        walk_claimed (typeDef_of_type? htype) (Table.mem_keys_of_get? hclaim)]
      exact ih
  | case4 claims works id rest type htype hclaim claimed error written hwrite =>
      rw [List.cons_append,
        walk_new (typeDef_of_type? htype) (Table.get?_eq_none_iff.mp hclaim), hwrite]
  | case5 claims works id rest type htype hclaim claimed referenced written hwrite _ ih =>
      rw [List.cons_append,
        walk_new (typeDef_of_type? htype) (Table.get?_eq_none_iff.mp hclaim), hwrite]
      simp only [← List.append_assoc]
      exact ih

theorem walk_cons :
    walk set options sink claims works (id :: rest) =
      match walk set options sink claims works [id] with
      | .error error emission => .error error emission
      | .ok () emission => walk set options sink emission.claims emission.works rest := by
  have h : id :: rest = [id] ++ rest := rfl
  rw [h]
  exact walk_append

end

/-! Visits and walks. -/

mutual

theorem walk_of_visits {id : TypeId} {emission : Emission σ} {ending : Ending σ}
    (hsettled : emission.works.memo.Settled set) :
    Visits set options sink id emission ending →
      walk set options sink emission.claims emission.works [id] = ending
  | .absent herror => walk_absent herror
  | .claimed htype hclaim => by
      rw [walk_claimed htype hclaim, walk]
  | .failed htype hnew hwrite => by
      rw [walk_new htype hnew, hwrite]
  | .written htype hnew hwrite hall => by
      obtain ⟨delivery, _, _, rfl, hdelivered⟩ :=
        Works.delivered_of_writeStruct htype hsettled hwrite
      rw [walk_new htype hnew, hwrite]
      simp only [List.append_nil]
      exact walk_of_visitsAll hdelivered.settled hall

theorem walk_of_visitsAll {ids : List TypeId} {emission : Emission σ} {ending : Ending σ}
    (hsettled : emission.works.memo.Settled set) :
    VisitsAll set options sink ids emission ending →
      walk set options sink emission.claims emission.works ids = ending
  | .nil => by
      rw [walk]
  | .failed hfirst => by
      rw [walk_cons, walk_of_visits hsettled hfirst]
  | .cons hfirst hrest => by
      have hwalk := walk_of_visits hsettled hfirst
      rw [walk_cons, hwalk]
      exact walk_of_visitsAll (settled_of_walk hsettled hwalk) hrest

end

theorem VisitsAll.split {first second : List TypeId} {emission : Emission σ} {ending : Ending σ}
    (h : VisitsAll set options sink (first ++ second) emission ending) :
    (∃ error between, ending = .error error between ∧
      VisitsAll set options sink first emission (.error error between)) ∨
    ∃ between, VisitsAll set options sink first emission (.ok () between) ∧
      VisitsAll set options sink second between ending := by
  induction first generalizing emission with
  | nil => exact .inr ⟨emission, .nil, h⟩
  | cons id rest ih =>
      cases h with
      | failed hid => exact .inl ⟨_, _, rfl, .failed hid⟩
      | cons hid hrest =>
          rcases ih hrest with ⟨error, between, rfl, hall⟩ | ⟨between, hall, hsecond⟩
          · exact .inl ⟨error, between, rfl, .cons hid hall⟩
          · exact .inr ⟨between, .cons hid hall, hsecond⟩

theorem visitsAll_walk {claims : Claims} {works : Works σ} {stack : List TypeId}
    (hsettled : works.memo.Settled set) :
    VisitsAll set options sink stack ⟨claims, works⟩
      (walk set options sink claims works stack) := by
  fun_induction walk set options sink claims works stack with
  | case1 => exact .nil
  | case2 claims works id rest htype =>
      have habsent : set.typeDef id = .error (.absent .type id.index) := by
        rw [SchemaSet.typeDef, htype]
      exact .failed (.absent habsent)
  | case3 claims works id rest type htype owner hclaim ih =>
      have hkey := Table.mem_keys_of_get? hclaim
      exact .cons (.claimed (typeDef_of_type? htype) hkey) (ih hsettled)
  | case4 claims works id rest type htype hclaim claimed error written hwrite =>
      have hnew := Table.get?_eq_none_iff.mp hclaim
      exact .failed (.failed (typeDef_of_type? htype) hnew hwrite)
  | case5 claims works id rest type htype hclaim claimed referenced written hwrite _ ih =>
      have hdef := typeDef_of_type? htype
      have hnew := Table.get?_eq_none_iff.mp hclaim
      obtain ⟨delivery, _, _, rfl, hdelivered⟩ :=
        Works.delivered_of_writeStruct hdef hsettled hwrite
      rcases (ih hdelivered.settled).split with ⟨error, between, heq, hall⟩ | ⟨between, hall, hrest⟩
      · rw [heq]
        exact .failed (.written hdef hnew hwrite hall)
      · exact .cons (.written hdef hnew hwrite hall) hrest

/-- An emission comes to the one ending that the visit has. -/
theorem visits_iff {emission : Emission σ} (hsettled : emission.works.memo.Settled set)
    (id : TypeId) (ending : Ending σ) :
    Visits set options sink id emission ending ↔ emit set options sink id emission = ending := by
  constructor
  · exact walk_of_visits hsettled
  · rintro rfl
    have hall : VisitsAll set options sink [id] emission (emit set options sink id emission) :=
      visitsAll_walk hsettled
    cases hending : emit set options sink id emission with
    | error error between =>
        rw [hending] at hall
        cases hall with
        | failed hid => exact hid
        | cons _ hrest => cases hrest
    | ok value between =>
        rw [hending] at hall
        cases hall with
        | cons hid hrest =>
            cases hrest
            exact hid

end Emission

end SchemaBinding
