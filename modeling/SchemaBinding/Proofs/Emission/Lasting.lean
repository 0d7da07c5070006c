import SchemaBinding.Proofs.Emission.Delivery

namespace SchemaBinding

namespace Emission

variable {σ : Type} {set : SchemaSet} {options : Options} {sink : Sink σ}
  {Holds : Emission σ → Prop}

/-- What each step of an emission keeps. A struct is written only for a name that is not claimed
before. -/
structure Lasting (set : SchemaSet) (options : Options) (sink : Sink σ)
    (Holds : Emission σ → Prop) : Prop where
  settled : ∀ {emission}, Holds emission → emission.works.memo.Settled set
  remember : ∀ {emission} {memo : Memo}, Holds emission → memo.Settled set →
    Holds { emission with works := { emission.works with memo := memo } }
  write : ∀ {claims works id} {type : TypeDef}, Holds ⟨claims, works⟩ →
    set.typeDef id = .ok type → type.structKey options ∉ claims.keys →
      Holds ⟨claims.put (type.structKey options) id,
        stateAfter (Works.writeStruct set options sink id type works)⟩

theorem typeDef_of_type? {id : TypeId} {type : TypeDef} (h : set.model.type? id = some type) :
    set.typeDef id = .ok type := by
  rw [SchemaSet.typeDef, h]

theorem elementType_eq {emission : Emission σ} (hsettled : emission.works.memo.Settled set)
    (id : ElementId) :
    ∃ memo : Memo, memo.Settled set ∧ elementType set id emission =
      outcome (set.answers.elementType id)
        { emission with works := { emission.works with memo := memo } } := by
  obtain ⟨memo, hmemo, heq⟩ :=
    Works.resolving_eq (Resolving.agrees_elementType set {} id) hsettled
  refine ⟨memo, hmemo, ?_⟩
  rw [elementType, heq]
  cases set.answers.elementType id <;> rfl

namespace Lasting

theorem walk (h : Lasting set options sink Holds) {claims : Claims} {works : Works σ}
    {stack : List TypeId} (hstart : Holds ⟨claims, works⟩) :
    Holds (stateAfter (Emission.walk set options sink claims works stack)) := by
  fun_induction Emission.walk set options sink claims works stack with
  | case1 => exact hstart
  | case2 => exact hstart
  | case3 claims works id rest type htype owner hclaim ih => exact ih hstart
  | case4 claims works id rest type htype hclaim claimed error written hwrite =>
      have hwritten : Holds ⟨claimed,
          stateAfter (Works.writeStruct set options sink id type works)⟩ :=
        h.write hstart (typeDef_of_type? htype) (Table.get?_eq_none_iff.mp hclaim)
      rw [hwrite] at hwritten
      exact hwritten
  | case5 claims works id rest type htype hclaim claimed referenced written hwrite _ ih =>
      have hwritten : Holds ⟨claimed,
          stateAfter (Works.writeStruct set options sink id type works)⟩ :=
        h.write hstart (typeDef_of_type? htype) (Table.get?_eq_none_iff.mp hclaim)
      rw [hwrite] at hwritten
      exact ih hwritten

theorem emit (h : Lasting set options sink Holds) (id : TypeId) {emission : Emission σ}
    (hstart : Holds emission) : Holds (stateAfter (Emission.emit set options sink id emission)) :=
  h.walk hstart

theorem emitSeed (h : Lasting set options sink Holds) (seed : Seed) {emission : Emission σ}
    (hstart : Holds emission) :
    Holds (stateAfter (Emission.emitSeed set options sink seed emission)) := by
  cases seed with
  | type id => exact h.emit id hstart
  | element id =>
      apply stateAfter_bind Holds
      · obtain ⟨memo, hmemo, heq⟩ := elementType_eq (h.settled hstart) id
        rw [heq, stateAfter_outcome]
        exact h.remember hstart hmemo
      · intro target between hbetween
        cases target with
        | builtin type => exact hbetween
        | simple id => exact hbetween
        | complex id => exact h.emit id hbetween

theorem emitSeeds (h : Lasting set options sink Holds) (seeds : List Seed)
    {emission : Emission σ} (hstart : Holds emission) :
    Holds (stateAfter (Emission.emitSeeds set options sink seeds emission)) := by
  induction seeds generalizing emission with
  | nil => exact hstart
  | cons seed rest ih =>
      apply stateAfter_bind Holds
      · exact h.emitSeed seed hstart
      · intro _ between hbetween
        exact ih hbetween

end Lasting

end Emission

end SchemaBinding
