import SchemaBinding.Proofs.Emission.Run
import SchemaBinding.Proofs.SchemaSet.Closure

namespace SchemaBinding

/-- The memos that an emitter can have: an empty one, and what questions and emissions leave of
such a memo, also when they fail and whatever else they work on. -/
inductive Memo.Reachable (set : SchemaSet) : Memo → Prop
  | empty : Reachable set {}
  | asked {memo : Memo} (query : Query) : Reachable set memo → Reachable set (memo.asked set query)
  | emitted {σ : Type} (options : Options) (sink : Sink σ) (id : TypeId) {emission : Emission σ} :
      Reachable set emission.works.memo →
        Reachable set (stateAfter (Emission.emit set options sink id emission)).works.memo
  | emittedRoots {σ : Type} (options : Options) (sink : Sink σ) {emission : Emission σ} :
      Reachable set emission.works.memo →
        Reachable set (stateAfter (Emission.emitRoots set options sink emission)).works.memo

theorem Memo.Reachable.settled {set : SchemaSet} {memo : Memo} (h : memo.Reachable set) :
    memo.Settled set := by
  induction h with
  | empty => exact settled_empty set
  | asked query _ ih => exact ih.asked query
  | emitted options sink id _ ih => exact (Emission.lasting_settled options sink).walk ih
  | emittedRoots options sink _ ih => exact (Emission.lasting_settled options sink).emitSeeds _ ih

namespace Emission

variable {σ : Type} {set : SchemaSet} {options : Options} {sink : Sink σ}

def Listed (structs : List EmittedStruct) (key : String × String) : Prop :=
  ∃ entry ∈ structs, (entry.package, entry.name) = key

/-- Everything that a file names is there. -/
structure Complete (options : Options) (structs : List EmittedStruct) (file : StructFile) :
    Prop where
  base : ∀ base, file.base = some base → Listed structs (base.key file.package)
  fields : ∀ field ∈ file.fields, ¬ field.type.IsBuiltin →
    Listed structs (field.type.key file.package)
  imports : Works.ImportsFit options file.types file.imports
  own : file.package ∉ file.imports.keys
  filled : ∀ package ∈ file.imports.keys, ∃ entry ∈ structs, entry.package = package

theorem listed_of_mem {deliveries : List Delivery} {key : StructKey}
    (h : key ∈ deliveries.map Delivery.key) : Listed (deliveries.map Delivery.entry) key := by
  obtain ⟨delivery, hdelivery, rfl⟩ := List.mem_map.mp h
  exact ⟨delivery.entry, List.mem_map_of_mem hdelivery, rfl⟩

theorem key_mem_of_claimed {claims : Claims} {current : String} {type : GoType} {id : TypeId}
    (hstands : type.Stands set options current (some id))
    (hclaimed : Claimed set options claims id) : type.key current ∈ claims.keys := by
  obtain ⟨definition, hdefinition, rfl⟩ := hstands
  obtain ⟨found, hfound, hmem⟩ := hclaimed
  rw [hdefinition] at hfound
  cases hfound
  rw [GoType.key_goType]
  exact hmem

theorem complete_of_ran {before after : Emission σ} {starts : List TypeId}
    {deliveries : List Delivery} (h : Ran set options sink before after starts deliveries)
    (hclaims : before.claims = []) {delivery : Delivery} (hdelivery : delivery ∈ deliveries) :
    Complete options (deliveries.map Delivery.entry) delivery.file := by
  obtain ⟨type, _, hfile⟩ := (h.delivered.fits delivery hdelivery).describes
  have hkeys : after.claims.keys = deliveries.map Delivery.key := by
    rw [h.keys, hclaims]
    rfl
  have hlisted : ∀ (found : GoType) (next : TypeId), next ∈ set.successors delivery.id →
      found.Stands set options delivery.file.package (some next) →
        Listed (deliveries.map Delivery.entry) (found.key delivery.file.package) := by
    intro found next hnext hstands
    apply listed_of_mem
    rw [← hkeys]
    exact key_mem_of_claimed hstands (h.closed delivery hdelivery next hnext)
  have hnamed : ∀ found ∈ delivery.file.types, ¬ found.IsBuiltin →
      Listed (deliveries.map Delivery.entry) (found.key delivery.file.package) := by
    intro found hfound hforeign
    obtain ⟨next?, hstands, hnext⟩ := hfile.stands found hfound
    cases next? with
    | none => exact absurd hstands hforeign
    | some next => exact hlisted found next (hnext next rfl) hstands
  refine ⟨?_, ?_, hfile.imports, ?_, ?_⟩
  · intro base hbase
    obtain ⟨next, hnext, hstands⟩ := hfile.base base hbase
    exact hlisted base next hnext hstands
  · intro field hfield hforeign
    exact hnamed field.type (List.mem_append_right _ (List.mem_map_of_mem hfield)) hforeign
  · intro hown
    obtain ⟨found, hfound, hpackage⟩ := (hfile.imports.mem_keys _).mp hown
    obtain ⟨next?, hstands, _⟩ := hfile.stands found hfound
    exact hstands.package_ne hpackage
  · intro package hpackage
    obtain ⟨found, hfound, hqualified⟩ := (hfile.imports.mem_keys _).mp hpackage
    have hforeign : ¬ found.IsBuiltin := by
      intro hbuiltin
      rw [GoType.package_of_isBuiltin hbuiltin] at hqualified
      cases hqualified
    obtain ⟨entry, hentry, hkey⟩ := hnamed found hfound hforeign
    refine ⟨entry, hentry, ?_⟩
    have hfirst := congrArg Prod.fst hkey
    simp only [GoType.key, hqualified, Option.getD_some] at hfirst
    exact hfirst

/-- A run that succeeds leaves no type of a file without its struct. -/
theorem complete_of_emitRoots {start after : Emission σ}
    (hmemo : start.works.memo.Reachable set)
    (h : emitRoots set options sink start.renew = .ok () after) :
    ∃ deliveries,
      Works.Delivered set options sink start.renew.works after.works deliveries ∧
        ∀ delivery ∈ deliveries, Complete options after.works.structs delivery.file := by
  have hsettled : start.renew.works.memo.Settled set := hmemo.settled
  obtain ⟨deliveries, hran⟩ := ran_emitSeeds hsettled h
  refine ⟨deliveries, hran.delivered, ?_⟩
  intro delivery hdelivery
  rw [hran.delivered.structs]
  exact complete_of_ran hran rfl hdelivery

end Emission

/-! An element of a type that refers to itself and to a type of another package. -/

namespace Sample

open Emission

def span : Span := ⟨⟨0⟩, 0, 0⟩

def element (name : String) (type : TypeId) : ElementDecl :=
  ⟨.named name (some (.inline type)), .once, some "urn:tree", [], span⟩

def type (name space : String) (elements : List ElementId) : TypeDef :=
  ⟨some name, some space, none, [], span,
    .complex (.direct ⟨[], some (.model .sequence .once (elements.map .element))⟩) false⟩

def node : TypeDef := type "Node" "urn:tree" [⟨0⟩, ⟨1⟩]

def leaf : TypeDef := type "Leaf" "urn:leaf" []

def document : SchemaDocument where
  path := ⟨"tree.xsd"⟩
  document := ⟨"", ⟨⟨none, "schema"⟩, [], none, {}, 0, 0, []⟩⟩
  schema := {
    targetSpace := some "urn:tree"
    symbols := {
      document := "tree.xsd"
      permissive := false
      entries := [((.element, "node"), 0)] }
    directives := [] }

def set : SchemaSet where
  documents := #[document]
  roots := [⟨0⟩]
  model := {
    elements := #[element "node" ⟨0⟩, element "leaf" ⟨1⟩]
    types := #[node, leaf] }

def start : Emission (List Sink.GeneratedFile) := { works := { sink := [] } }

theorem reachable_start : start.works.memo.Reachable set :=
  Memo.Reachable.empty

theorem successors_node : set.successors ⟨0⟩ = [⟨0⟩, ⟨1⟩] := by
  decide +kernel

theorem successors_leaf : set.successors ⟨1⟩ = [] := by
  decide +kernel

theorem writable : Writable set {} fun id => id = ⟨0⟩ ∨ id = ⟨1⟩ where
  made id hid := by
    rcases hid with rfl | rfl
    · have hok : (Works.structFile set {} set.answers ⟨0⟩ node).toBool = true := by
        decide +kernel
      cases hfile : Works.structFile set {} set.answers ⟨0⟩ node with
      | error error =>
          rw [hfile] at hok
          cases hok
      | ok made => exact ⟨node, made, rfl, hfile⟩
    · have hok : (Works.structFile set {} set.answers ⟨1⟩ leaf).toBool = true := by
        decide +kernel
      cases hfile : Works.structFile set {} set.answers ⟨1⟩ leaf with
      | error error =>
          rw [hfile] at hok
          cases hok
      | ok made => exact ⟨leaf, made, rfl, hfile⟩
  closed id next hid hnext := by
    rcases hid with rfl | rfl
    · rw [SchemaSet.Refers, successors_node] at hnext
      simpa using hnext
    · rw [SchemaSet.Refers, successors_leaf] at hnext
      cases hnext

theorem seeds_eq : seeds set {} = [.element ⟨0⟩] := by
  have hclosure : set.includeClosure ⟨0⟩ = [⟨0⟩] := by
    rw [SchemaSet.includeClosure, SchemaSet.walk_alone rfl rfl, List.reverse_singleton]
  change ((set.includeClosure ⟨0⟩ ++ []).filterMap set.document?).flatMap elementSeeds = _
  rw [hclosure]
  rfl

theorem exists_emitRoots :
    ∃ after, emitRoots set {} Sink.listing start.renew = .ok () after := by
  apply exists_emitSeeds Sink.accepts_listing writable _ (Memo.settled_empty set)
  intro seed hseed
  rw [seeds_eq] at hseed
  rw [List.mem_singleton.mp hseed]
  refine ⟨.complex ⟨0⟩, eq_ok_of_toOption (by decide +kernel), ?_⟩
  rintro next ⟨⟩
  exact .inl rfl

end Sample

theorem Emission.complete_sample :
    ∃ after deliveries, emitRoots Sample.set {} Sink.listing Sample.start.renew = .ok () after ∧
      Works.Delivered Sample.set {} Sink.listing Sample.start.renew.works after.works
        deliveries ∧
      ∀ delivery ∈ deliveries, Complete {} after.works.structs delivery.file := by
  obtain ⟨after, hafter⟩ := Sample.exists_emitRoots
  obtain ⟨deliveries, hdelivered, hcomplete⟩ :=
    complete_of_emitRoots Sample.reachable_start hafter
  exact ⟨after, deliveries, hafter, hdelivered, hcomplete⟩

end SchemaBinding
