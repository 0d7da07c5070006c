import SchemaBinding.Proofs.Emission.Visit
import SchemaBinding.Proofs.SchemaSet.Closure

namespace SchemaBinding

open Relation (ReflTransGen)

namespace Emission

variable {σ : Type} {set : SchemaSet} {options : Options} {sink : Sink σ}

def DeclaresElement (set : SchemaSet) (document : SchemaDocument) (id : TypeId) : Prop :=
  ∃ entry ∈ document.symbols.elements, set.answers.elementType entry.2 = .ok (.complex id)

def DeclaresType (set : SchemaSet) (document : SchemaDocument) (id : TypeId) : Prop :=
  (∃ entry ∈ document.symbols.types, entry.2 = id) ∧
    ∃ type, set.typeDef id = .ok type ∧ type.isComplex = true

/-- Where a run starts: from the elements and types of all documents, or else from the elements
of the roots and of what these include, directly or not. -/
def IsStart (set : SchemaSet) (options : Options) (id : TypeId) : Prop :=
  if options.recursive then
    ∃ document ∈ set.documents, DeclaresElement set document id ∨ DeclaresType set document id
  else
    ∃ root ∈ set.roots, ∃ number document, ReflTransGen set.Includes root number ∧
      set.document? number = some document ∧ DeclaresElement set document id

theorem mem_elementSeeds_iff {document : SchemaDocument} {id : TypeId} :
    id ∈ (elementSeeds document).filterMap (Seed.type? set) ↔ DeclaresElement set document id := by
  simp only [elementSeeds, DeclaresElement, List.mem_filterMap, List.mem_map]
  constructor
  · rintro ⟨seed, ⟨entry, hentry, rfl⟩, hseed⟩
    simp only [Seed.type?] at hseed
    split at hseed
    case h_1 target htarget =>
        cases target with
        | builtin type => cases hseed
        | simple next => cases hseed
        | complex next =>
            cases hseed
            exact ⟨entry, hentry, htarget⟩
    case h_2 => cases hseed
  · rintro ⟨entry, hentry, htarget⟩
    refine ⟨.element entry.2, ⟨entry, hentry, rfl⟩, ?_⟩
    simp only [Seed.type?, htarget]
    rfl

theorem isComplex_iff {id : TypeId} :
    isComplex set id = true ↔ ∃ type, set.typeDef id = .ok type ∧ type.isComplex = true := by
  unfold isComplex
  constructor
  · intro h
    cases htype : set.model.type? id with
    | none =>
        rw [htype] at h
        cases h
    | some type =>
        rw [htype] at h
        exact ⟨type, typeDef_of_type? htype, h⟩
  · rintro ⟨type, htype, hcomplex⟩
    rw [SchemaSet.type?_of_typeDef htype]
    exact hcomplex

theorem mem_typeSeeds_iff {document : SchemaDocument} {id : TypeId} :
    id ∈ (typeSeeds set document).filterMap (Seed.type? set) ↔ DeclaresType set document id := by
  simp only [typeSeeds, DeclaresType, List.mem_filterMap, List.mem_map, List.mem_filter]
  constructor
  · rintro ⟨seed, ⟨entry, ⟨hentry, hcomplex⟩, rfl⟩, hseed⟩
    cases hseed
    exact ⟨⟨entry, hentry, rfl⟩, isComplex_iff.mp hcomplex⟩
  · rintro ⟨⟨entry, hentry, rfl⟩, hcomplex⟩
    exact ⟨.type entry.2, ⟨entry, ⟨hentry, isComplex_iff.mpr hcomplex⟩, rfl⟩, rfl⟩

theorem mem_seeds_iff {id : TypeId} :
    id ∈ (seeds set options).filterMap (Seed.type? set) ↔ IsStart set options id := by
  unfold seeds IsStart
  split
  case isTrue =>
      simp only [List.filterMap_flatMap, List.mem_flatMap, List.filterMap_append,
        List.mem_append, mem_elementSeeds_iff, mem_typeSeeds_iff, Array.mem_toList_iff]
  case isFalse =>
      simp only [List.filterMap_flatMap, List.mem_flatMap, mem_elementSeeds_iff]
      simp only [List.mem_filterMap, SchemaSet.mem_includeClosure_iff]
      constructor
      · rintro ⟨document, ⟨root, hroot, number, ⟨_, hreach⟩, hdocument⟩, hdeclares⟩
        exact ⟨root, hroot, number, document, hreach, hdocument, hdeclares⟩
      · rintro ⟨root, hroot, number, document, hreach, hdocument, hdeclares⟩
        exact ⟨document, ⟨root, hroot, number, ⟨⟨document, hdocument⟩, hreach⟩, hdocument⟩,
          hdeclares⟩

/-- A type that the structs lead to from where a run starts. -/
def IsReached (set : SchemaSet) (options : Options) (id : TypeId) : Prop :=
  ∃ start, IsStart set options start ∧ ReflTransGen set.Refers start id

/-- No two types that are reached have one package and name. -/
def Distinct (set : SchemaSet) (options : Options) : Prop :=
  ∀ first second type other, IsReached set options first → IsReached set options second →
    set.typeDef first = .ok type → set.typeDef second = .ok other →
      type.structKey options = other.structKey options → first = second

theorem key_eq_of_fits {delivery : Delivery} (h : delivery.Fits set options) :
    ∃ type, set.typeDef delivery.id = .ok type ∧ delivery.key = type.structKey options := by
  obtain ⟨type, htype, hfile⟩ := h.describes
  exact ⟨type, htype, by rw [Delivery.key, TypeDef.structKey, hfile.package, hfile.name]⟩

theorem nodup_ids {deliveries : List Delivery}
    (hfits : ∀ delivery ∈ deliveries, delivery.Fits set options)
    (h : (deliveries.map Delivery.key).Nodup) : (deliveries.map Delivery.id).Nodup := by
  rw [List.Nodup, List.pairwise_map] at h ⊢
  apply h.imp_of_mem
  intro first second hfirst hsecond hne heq
  obtain ⟨type, htype, hkey⟩ := key_eq_of_fits (hfits first hfirst)
  obtain ⟨other, hother, hkey'⟩ := key_eq_of_fits (hfits second hsecond)
  rw [heq, hother] at htype
  cases htype
  exact hne (hkey.trans hkey'.symm)

theorem delivered_of_claimed {before after : Emission σ} {deliveries : List Delivery}
    (hran : Ran set options sink before after ((seeds set options).filterMap (Seed.type? set))
      deliveries)
    (hclaims : before.claims = []) (hdistinct : Distinct set options) {id : TypeId}
    (hreached : IsReached set options id) (hclaimed : Claimed set options after.claims id) :
    id ∈ deliveries.map Delivery.id := by
  obtain ⟨type, htype, hmem⟩ := hclaimed
  rw [hran.keys, hclaims] at hmem
  obtain ⟨delivery, hdelivery, hkey⟩ := List.mem_map.mp hmem
  obtain ⟨other, hother, hkey'⟩ := key_eq_of_fits (hran.delivered.fits delivery hdelivery)
  obtain ⟨start, hstart, hreach⟩ := hran.reached delivery hdelivery
  have heq := hdistinct delivery.id id other type ⟨start, mem_seeds_iff.mp hstart, hreach⟩
    hreached hother htype (hkey'.symm.trans hkey)
  exact List.mem_map.mpr ⟨delivery, hdelivery, heq⟩

theorem mem_delivered_iff {before after : Emission σ} {deliveries : List Delivery}
    (hran : Ran set options sink before after ((seeds set options).filterMap (Seed.type? set))
      deliveries)
    (hclaims : before.claims = []) (hdistinct : Distinct set options) {id : TypeId} :
    id ∈ deliveries.map Delivery.id ↔ IsReached set options id := by
  constructor
  · intro h
    obtain ⟨delivery, hdelivery, rfl⟩ := List.mem_map.mp h
    obtain ⟨start, hstart, hreach⟩ := hran.reached delivery hdelivery
    exact ⟨start, mem_seeds_iff.mp hstart, hreach⟩
  · rintro ⟨start, hstart, hreach⟩
    induction hreach with
    | refl =>
        apply delivered_of_claimed hran hclaims hdistinct ⟨start, hstart, .refl⟩
        exact hran.started start (mem_seeds_iff.mpr hstart)
    | tail hbefore hrefers ih =>
        obtain ⟨delivery, hdelivery, hid⟩ := List.mem_map.mp ih
        apply delivered_of_claimed hran hclaims hdistinct
          ⟨start, hstart, hbefore.tail hrefers⟩
        exact hran.closed delivery hdelivery _ (hid ▸ hrefers)

/-- The emission of a type is the recursive one, and a run over distinct types that succeeds
writes those that are reached, each once. -/
theorem emit_depth_first (set : SchemaSet) (options : Options) (sink : Sink σ) :
    (∀ (emission : Emission σ) (id : TypeId) (ending : Ending σ),
      emission.works.memo.Reachable set →
        (Visits set options sink id emission ending ↔
          emit set options sink id emission = ending)) ∧
    ∀ start after : Emission σ, start.works.memo.Reachable set → Distinct set options →
      emitRoots set options sink start.renew = .ok () after →
        ∃ deliveries,
          Works.Delivered set options sink start.renew.works after.works deliveries ∧
          (deliveries.map Delivery.id).Nodup ∧
          ∀ id, id ∈ deliveries.map Delivery.id ↔ IsReached set options id := by
  constructor
  · intro emission id ending hmemo
    exact visits_iff hmemo.settled id ending
  · intro start after hmemo hdistinct h
    have hsettled : start.renew.works.memo.Settled set := hmemo.settled
    obtain ⟨deliveries, hran⟩ := ran_emitSeeds hsettled h
    have hkeys := hran.nodup List.Pairwise.nil
    rw [hran.keys] at hkeys
    exact ⟨deliveries, hran.delivered, nodup_ids hran.delivered.fits hkeys,
      fun id => mem_delivered_iff hran rfl hdistinct⟩

end Emission

namespace Sample

theorem cases_typeDef {id : TypeId} {type : TypeDef} (h : set.typeDef id = .ok type) :
    id = ⟨0⟩ ∧ type = node ∨ id = ⟨1⟩ ∧ type = leaf := by
  have hlt : id.index < 2 := SchemaSet.index_lt_of_typeDef h
  obtain ⟨index⟩ := id
  match index, hlt with
  | 0, _ =>
      cases h
      exact .inl ⟨rfl, rfl⟩
  | 1, _ =>
      cases h
      exact .inr ⟨rfl, rfl⟩

theorem key_node_ne : node.structKey {} ≠ leaf.structKey {} := by
  have hnode : node.structName = "Node" := by decide +kernel
  have hleaf : leaf.structName = "Leaf" := by decide +kernel
  intro heq
  have hname := congrArg Prod.snd heq
  simp [TypeDef.structKey, hnode, hleaf] at hname

theorem distinct : Emission.Distinct set {} := by
  intro first second type other _ _ hfirst hsecond hkey
  rcases cases_typeDef hfirst with ⟨rfl, rfl⟩ | ⟨rfl, rfl⟩
  · rcases cases_typeDef hsecond with ⟨rfl, rfl⟩ | ⟨rfl, rfl⟩
    · rfl
    · exact absurd hkey key_node_ne
  · rcases cases_typeDef hsecond with ⟨rfl, rfl⟩ | ⟨rfl, rfl⟩
    · exact absurd hkey.symm key_node_ne
    · rfl

end Sample

theorem Emission.depth_first_sample :
    Visits Sample.set {} Sink.listing ⟨0⟩ Sample.start
      (emit Sample.set {} Sink.listing ⟨0⟩ Sample.start) ∧
    ∃ after deliveries,
      emitRoots Sample.set {} Sink.listing Sample.start.renew = .ok () after ∧
      Works.Delivered Sample.set {} Sink.listing Sample.start.renew.works after.works
        deliveries ∧
      (deliveries.map Delivery.id).Nodup ∧
      ∀ id, id ∈ deliveries.map Delivery.id ↔ IsReached Sample.set {} id := by
  obtain ⟨hvisits, hexact⟩ := emit_depth_first Sample.set {} Sink.listing
  obtain ⟨after, hafter⟩ := Sample.exists_emitRoots
  obtain ⟨deliveries, h⟩ :=
    hexact Sample.start after Sample.reachable_start Sample.distinct hafter
  exact ⟨(hvisits Sample.start ⟨0⟩ _ Sample.reachable_start).mpr rfl, after, deliveries,
    hafter, h⟩

end SchemaBinding
