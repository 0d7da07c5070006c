import SchemaBinding.Emission.Walk
import SchemaBinding.Proofs.Resolution.Query
import SchemaBinding.Proofs.Struct.File

namespace SchemaBinding

variable {σ : Type}

/-- A struct file that was handed over, with the type it is of and what is listed for it. -/
structure Delivery where
  id : TypeId
  file : StructFile
  fileName : String
  space : Option String

namespace Delivery

def key (delivery : Delivery) : String × String :=
  (delivery.file.package, delivery.file.name)

def entry (delivery : Delivery) : EmittedStruct :=
  ⟨delivery.file.package, delivery.file.name, delivery.fileName, delivery.space⟩

def Fits (set : SchemaSet) (options : Options) (delivery : Delivery) : Prop :=
  ∃ type, set.typeDef delivery.id = .ok type ∧ delivery.space = type.space ∧
    Works.structFile set options set.answers delivery.id type =
      .ok (delivery.file, set.successors delivery.id)

theorem Fits.describes {set : SchemaSet} {options : Options} {delivery : Delivery}
    (h : delivery.Fits set options) :
    ∃ type, set.typeDef delivery.id = .ok type ∧
      delivery.file.Describes set options delivery.id type (set.successors delivery.id) := by
  obtain ⟨type, htype, _, hfile⟩ := h
  exact ⟨type, htype, Works.structFile_describes hfile⟩

end Delivery

def Sink.deliver (sink : Sink σ) : List Delivery → EStateM Error σ Unit
  | [] => return
  | delivery :: rest => do
      sink.write delivery.file.package delivery.fileName delivery.file.text
      deliver sink rest

def Sink.Accepts (sink : Sink σ) : Prop :=
  ∀ package file contents before, ∃ after, sink.write package file contents before = .ok () after

theorem Sink.accepts_listing : Sink.listing.Accepts := by
  intro package file contents before
  exact ⟨_, rfl⟩

theorem Sink.deliver_append {sink : Sink σ} {first second : List Delivery}
    {before between after : σ} (hfirst : sink.deliver first before = .ok () between)
    (hsecond : sink.deliver second between = .ok () after) :
    sink.deliver (first ++ second) before = .ok () after := by
  induction first generalizing before with
  | nil =>
      cases hfirst
      exact hsecond
  | cons delivery rest ih =>
      simp only [Sink.deliver, run_bind_eq_ok_iff] at hfirst
      obtain ⟨_, middle, hwrite, hrest⟩ := hfirst
      simp only [List.cons_append, Sink.deliver, run_bind_eq_ok_iff]
      exact ⟨(), middle, hwrite, ih hrest⟩

namespace Works

/-- From one state to a later one the files were handed over, in order, and no others. -/
structure Delivered (set : SchemaSet) (options : Options) (sink : Sink σ)
    (before after : Works σ) (deliveries : List Delivery) : Prop where
  settled : after.memo.Settled set
  fits : ∀ delivery ∈ deliveries, delivery.Fits set options
  sink : sink.deliver deliveries before.sink = .ok () after.sink
  structs : after.structs = before.structs ++ deliveries.map Delivery.entry

variable {set : SchemaSet} {options : Options} {sink : Sink σ}

theorem delivered_nil {before after : Works σ} (hsettled : after.memo.Settled set)
    (hsink : after.sink = before.sink) (hstructs : after.structs = before.structs) :
    Delivered set options sink before after [] where
  settled := hsettled
  fits := by simp
  sink := by
    rw [hsink]
    rfl
  structs := by rw [hstructs, List.map_nil, List.append_nil]

theorem Delivered.append {before between after : Works σ} {first second : List Delivery}
    (hfirst : Delivered set options sink before between first)
    (hsecond : Delivered set options sink between after second) :
    Delivered set options sink before after (first ++ second) where
  settled := hsecond.settled
  fits delivery hdelivery := by
    rcases List.mem_append.mp hdelivery with h | h
    · exact hfirst.fits delivery h
    · exact hsecond.fits delivery h
  sink := Sink.deliver_append hfirst.sink hsecond.sink
  structs := by rw [hsecond.structs, hfirst.structs, List.map_append, List.append_assoc]

theorem agrees_structFile (set : SchemaSet) (options : Options) (id : TypeId) (type : TypeDef) :
    Agrees set {} (structFile set options (Resolving.answers set) id type)
      (structFile set options set.answers id type) :=
  follows_structFile set options (Resolving.serves_answers set) type
    (Resolving.agrees_content set id)

theorem resolving_eq {α : Type} {work : Resolving α} {result : Except Error α}
    (h : Agrees set {} work result) {works : Works σ} (hsettled : works.memo.Settled set) :
    ∃ memo : Memo, memo.Settled set ∧
      resolving work works = outcome result { works with memo := memo } := by
  obtain ⟨memo, hsound, hnone, heq⟩ := h works.memo hsettled.1 hsettled.2
  refine ⟨memo, ⟨hsound, hnone⟩, ?_⟩
  rw [resolving, heq]
  cases result <;> rfl

theorem memo_writing {α : Type} (work : EStateM Error σ α) (works : Works σ) :
    (stateAfter (writing work works)).memo = works.memo := by
  unfold writing
  split <;> rfl

theorem writing_eq_ok_iff {α : Type} {work : EStateM Error σ α} {before after : Works σ}
    {value : α} :
    writing work before = .ok value after ↔
      ∃ sink, work before.sink = .ok value sink ∧ after = { before with sink := sink } := by
  unfold writing
  split
  case h_1 found sink hwork =>
      rw [hwork]
      constructor
      · rintro ⟨⟩
        exact ⟨sink, rfl, rfl⟩
      · rintro ⟨other, ⟨⟩, rfl⟩
        rfl
  case h_2 error sink hwork =>
      rw [hwork]
      constructor
      · rintro ⟨⟩
      · rintro ⟨_, ⟨⟩, _⟩

theorem settled_writeStruct (options : Options) (sink : Sink σ) (id : TypeId) (type : TypeDef)
    {works : Works σ} (hsettled : works.memo.Settled set) :
    (stateAfter (writeStruct set options sink id type works)).memo.Settled set := by
  apply stateAfter_bind fun works : Works σ => works.memo.Settled set
  · obtain ⟨memo, hmemo, heq⟩ := resolving_eq (agrees_structFile set options id type) hsettled
    rw [heq, stateAfter_outcome]
    exact hmemo
  · rintro ⟨file, referenced⟩ resolved hresolved
    apply stateAfter_bind fun works : Works σ => works.memo.Settled set
    · exact hresolved
    · intro fileName claimed hclaimed
      apply stateAfter_bind fun works : Works σ => works.memo.Settled set
      · rw [memo_writing]
        exact hclaimed
      · intro _ written hwritten
        exact hwritten

/-- Writing a struct hands over the file of its type, and gives the types to go on to. -/
theorem delivered_of_writeStruct {id : TypeId} {type : TypeDef} {before after : Works σ}
    {referenced : List TypeId} (htype : set.typeDef id = .ok type)
    (hsettled : before.memo.Settled set)
    (h : writeStruct set options sink id type before = .ok referenced after) :
    ∃ delivery : Delivery, delivery.id = id ∧ delivery.key = type.structKey options ∧
      referenced = set.successors id ∧ Delivered set options sink before after [delivery] := by
  have hafter := settled_writeStruct options sink id type hsettled
  rw [h] at hafter
  obtain ⟨memo, _, heq⟩ := resolving_eq (agrees_structFile set options id type) hsettled
  simp only [writeStruct, run_bind_eq_ok_iff] at h
  obtain ⟨⟨file, found⟩, resolved, hresolved, fileName, claimed, hclaimed, _, written, hwritten,
    _, listed, hlisted, hdone⟩ := h
  rw [heq] at hresolved
  cases hfile : structFile set options set.answers id type with
  | error error =>
      rw [hfile] at hresolved
      cases hresolved
  | ok made =>
      rw [hfile] at hresolved
      cases hresolved
      have hdescribes := structFile_describes hfile
      obtain ⟨state, hstate, rfl⟩ := writing_eq_ok_iff.mp hwritten
      cases hclaimed
      cases hlisted
      cases hdone
      have hreferenced := hdescribes.successors
      refine ⟨⟨id, file, freeFile before.files file.package file.name, type.space⟩, rfl, ?_,
        hreferenced, ?_⟩
      · simp only [Delivery.key, TypeDef.structKey, hdescribes.package, hdescribes.name]
      · refine ⟨hafter, ?_, ?_, rfl⟩
        · intro delivery hdelivery
          rw [List.mem_singleton.mp hdelivery]
          exact ⟨type, htype, rfl, hreferenced ▸ hfile⟩
        · simp only [Sink.deliver, run_bind_eq_ok_iff]
          exact ⟨(), state, hstate, rfl⟩

theorem exists_writeStruct (hsink : sink.Accepts) {id : TypeId} {type : TypeDef}
    {file : StructFile} {referenced : List TypeId} {before : Works σ}
    (hsettled : before.memo.Settled set)
    (hfile : structFile set options set.answers id type = .ok (file, referenced)) :
    ∃ after, writeStruct set options sink id type before = .ok referenced after := by
  obtain ⟨memo, _, heq⟩ := resolving_eq (agrees_structFile set options id type) hsettled
  rw [hfile] at heq
  obtain ⟨state, hstate⟩ := hsink file.package (freeFile before.files file.package file.name)
    file.text before.sink
  simp only [writeStruct, run_bind_eq_ok_iff]
  exact ⟨_, (file, referenced), _, heq, _, _, rfl, (), _,
    writing_eq_ok_iff.mpr ⟨state, hstate, rfl⟩, (), _, rfl, rfl⟩

end Works

end SchemaBinding
