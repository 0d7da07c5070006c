import SchemaBinding.Generation
import SchemaBinding.Proofs.Emission.Visit

namespace SchemaBinding

section

variable {ε σ τ α β : Type} {view : τ → σ}

def seenBy (view : τ → σ) : EStateM.Result ε τ α → EStateM.Result ε σ α
  | .ok value state => .ok value (view state)
  | .error error state => .error error (view state)

/-- Work that is other work when its state is seen in another way. -/
def ActsAs (view : τ → σ) (work : EStateM ε τ α) (other : EStateM ε σ α) : Prop :=
  ∀ state, seenBy view (work state) = other (view state)

theorem view_stateAfter (view : τ → σ) (result : EStateM.Result ε τ α) :
    view (stateAfter result) = stateAfter (seenBy view result) := by
  cases result <;> rfl

theorem seenBy_eq_ok_iff {result : EStateM.Result ε τ α} {value : α} {after : σ} :
    seenBy view result = .ok value after ↔
      ∃ state, result = .ok value state ∧ view state = after := by
  cases result with
  | ok found state =>
      simp only [seenBy, EStateM.Result.ok.injEq]
      constructor
      · rintro ⟨rfl, rfl⟩
        exact ⟨state, ⟨rfl, rfl⟩, rfl⟩
      · rintro ⟨_, ⟨rfl, rfl⟩, rfl⟩
        exact ⟨rfl, rfl⟩
  | error error state => simp [seenBy]

theorem ActsAs.bind {work : EStateM ε τ α} {other : EStateM ε σ α} {next : α → EStateM ε τ β}
    {otherNext : α → EStateM ε σ β} (hwork : ActsAs view work other)
    (hnext : ∀ value, ActsAs view (next value) (otherNext value)) :
    ActsAs view (work >>= next) (other >>= otherNext) := by
  intro state
  have hfirst := hwork state
  simp only [Bind.bind, EStateM.bind, ← hfirst]
  cases work state with
  | error error after => rfl
  | ok value after => exact hnext value after

end

variable {σ τ : Type}

namespace Sink

def SeenAs (view : τ → σ) (sink : Sink τ) (other : Sink σ) : Prop :=
  ∀ package file contents,
    ActsAs view (sink.write package file contents) (other.write package file contents)

/-- Notes each file that the sink takes. -/
def recorded (sink : Sink σ) : Sink (σ × List GeneratedFile) where
  write package file contents := fun (state, taken) =>
    match sink.write package file contents state with
    | .ok () after => .ok () (after, taken ++ [⟨package, file, contents⟩])
    | .error error after => .error error (after, taken)

theorem recorded_seenAs (sink : Sink σ) : SeenAs Prod.fst sink.recorded sink := by
  rintro package file contents ⟨state, taken⟩
  simp only [recorded]
  cases sink.write package file contents state <;> rfl

end Sink

namespace Works

def mapSink (view : τ → σ) (works : Works τ) : Works σ where
  files := works.files
  structs := works.structs
  memo := works.memo
  sink := view works.sink

variable {view : τ → σ} {sink : Sink τ} {other : Sink σ}

theorem resolving_actsAs {α : Type} (work : Resolving α) :
    ActsAs (mapSink view) (resolving work) (resolving work) := by
  intro works
  simp only [resolving, mapSink]
  cases work works.memo <;> rfl

theorem writing_actsAs {α : Type} {work : EStateM Error τ α} {otherWork : EStateM Error σ α}
    (h : ActsAs view work otherWork) :
    ActsAs (mapSink view) (writing work) (writing otherWork) := by
  intro works
  have hwork := h works.sink
  simp only [writing, mapSink, ← hwork]
  cases work works.sink <;> rfl

theorem writeStruct_actsAs (hsink : Sink.SeenAs view sink other) (set : SchemaSet)
    (options : Options) (id : TypeId) (type : TypeDef) :
    ActsAs (mapSink view) (writeStruct set options sink id type)
      (writeStruct set options other id type) := by
  apply (resolving_actsAs _).bind
  rintro ⟨file, referenced⟩
  apply ActsAs.bind
  · intro works
    rfl
  · intro fileName
    apply (writing_actsAs (hsink file.package fileName file.text)).bind
    intro _ works
    rfl

end Works

namespace Emission

def mapSink (view : τ → σ) (emission : Emission τ) : Emission σ where
  claims := emission.claims
  works := emission.works.mapSink view

variable {view : τ → σ} {sink : Sink τ} {other : Sink σ} {set : SchemaSet} {options : Options}

theorem walk_seenBy (hsink : Sink.SeenAs view sink other) (claims : Claims) (works : Works τ)
    (stack : List TypeId) :
    seenBy (mapSink view) (walk set options sink claims works stack) =
      walk set options other claims (works.mapSink view) stack := by
  fun_induction walk set options sink claims works stack with
  | case1 claims works =>
      rw [walk]
      rfl
  | case2 claims works id rest htype =>
      have habsent : set.typeDef id = .error (.absent .type id.index) := by
        rw [SchemaSet.typeDef, htype]
      exact (walk_absent habsent).symm
  | case3 claims works id rest type htype owner hclaim ih =>
      rw [walk_claimed (typeDef_of_type? htype) (Table.mem_keys_of_get? hclaim)]
      exact ih
  | case4 claims works id rest type htype hclaim claimed error written hwrite =>
      have hother := Works.writeStruct_actsAs hsink set options id type works
      rw [walk_new (typeDef_of_type? htype) (Table.get?_eq_none_iff.mp hclaim), ← hother, hwrite]
      rfl
  | case5 claims works id rest type htype hclaim claimed referenced written hwrite _ ih =>
      have hother := Works.writeStruct_actsAs hsink set options id type works
      rw [walk_new (typeDef_of_type? htype) (Table.get?_eq_none_iff.mp hclaim), ← hother, hwrite]
      exact ih

theorem emit_actsAs (hsink : Sink.SeenAs view sink other) (id : TypeId) :
    ActsAs (mapSink view) (emit set options sink id) (emit set options other id) :=
  fun emission => walk_seenBy hsink emission.claims emission.works [id]

theorem elementType_actsAs (id : ElementId) :
    ActsAs (mapSink view) (elementType set id) (elementType set id) := by
  intro emission
  have hresolving : seenBy (Works.mapSink view)
      (Works.resolving (Resolving.elementType set id) emission.works) = _ :=
    Works.resolving_actsAs (Resolving.elementType set id) emission.works
  simp only [elementType, mapSink, ← hresolving]
  cases Works.resolving (Resolving.elementType set id) emission.works <;> rfl

theorem emitSeed_actsAs (hsink : Sink.SeenAs view sink other) (seed : Seed) :
    ActsAs (mapSink view) (emitSeed set options sink seed) (emitSeed set options other seed) := by
  cases seed with
  | type id => exact emit_actsAs hsink id
  | element id =>
      apply (elementType_actsAs id).bind
      intro target
      cases target with
      | builtin type => exact fun _ => rfl
      | simple id => exact fun _ => rfl
      | complex id => exact emit_actsAs hsink id

theorem emitSeeds_actsAs (hsink : Sink.SeenAs view sink other) (seeds : List Seed) :
    ActsAs (mapSink view) (emitSeeds set options sink seeds)
      (emitSeeds set options other seeds) := by
  induction seeds with
  | nil => exact fun _ => rfl
  | cons seed rest ih => exact (emitSeed_actsAs hsink seed).bind fun _ => ih

theorem emitRoots_actsAs (hsink : Sink.SeenAs view sink other) (set : SchemaSet)
    (options : Options) :
    ActsAs (mapSink view) (emitRoots set options sink) (emitRoots set options other) :=
  emitSeeds_actsAs hsink (seeds set options)

/-- What can be asked of one emission. With a new emitter, what is known of the schemas is
forgotten. -/
inductive Call
  | type (id : TypeId)
  | roots
  | newEmitter
  deriving DecidableEq, Repr

def Call.run (set : SchemaSet) (options : Options) (sink : Sink σ) : Call → Emitting σ Unit
  | .type id => emit set options sink id
  | .roots => emitRoots set options sink
  | .newEmitter => modify fun emission =>
      { emission with works := { emission.works with memo := {} } }

/-- What calls one after another leave, those that fail included. -/
def afterCalls (set : SchemaSet) (options : Options) (sink : Sink σ) (calls : List Call)
    (emission : Emission σ) : Emission σ :=
  calls.foldl (fun before call => stateAfter (call.run set options sink before)) emission

theorem Call.run_actsAs (hsink : Sink.SeenAs view sink other) (call : Call) :
    ActsAs (mapSink view) (call.run set options sink) (call.run set options other) := by
  cases call with
  | type id => exact emit_actsAs hsink id
  | roots => exact emitRoots_actsAs hsink set options
  | newEmitter => exact fun _ => rfl

theorem mapSink_afterCalls (hsink : Sink.SeenAs view sink other) (calls : List Call)
    (emission : Emission τ) :
    (afterCalls set options sink calls emission).mapSink view =
      afterCalls set options other calls (emission.mapSink view) := by
  induction calls generalizing emission with
  | nil => rfl
  | cons call rest ih =>
      have hcall : seenBy (mapSink view) (call.run set options sink emission) = _ :=
        Call.run_actsAs hsink call emission
      simp only [afterCalls, List.foldl_cons, ← hcall, ← view_stateAfter]
      exact ih (stateAfter (call.run set options sink emission))

end Emission

end SchemaBinding
