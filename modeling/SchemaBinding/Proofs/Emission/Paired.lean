import SchemaBinding.Proofs.Emission.Preferred
import SchemaBinding.Proofs.SchemaSet.Alongside
import SchemaBinding.Proofs.Struct.Paired

namespace SchemaBinding

open Relation (ReflTransGen)
open Sink (GeneratedFile)

variable {pairing : Pairing} {first second : SchemaSet}

namespace Emission

inductive Seed.Matches (pairing : Pairing) : Seed → Seed → Prop
  | element {a b : ElementId} : pairing.id a b → Matches pairing (.element a) (.element b)
  | type {a b : TypeId} : pairing.id a b → Matches pairing (.type a) (.type b)

/-- A type is the one that a seed starts from, or its struct is led to by that one. -/
def Seed.Leads (set : SchemaSet) (seed : Seed) (id : TypeId) : Prop :=
  ∃ start, seed.type? set = some start ∧ ReflTransGen set.Refers start id

theorem isReached_iff {set : SchemaSet} {options : Options} {id : TypeId} :
    IsReached set options id ↔ ∃ seed ∈ seeds set options, seed.Leads set id := by
  simp only [IsReached, ← mem_seeds_iff, List.mem_filterMap, Seed.Leads]
  constructor
  · rintro ⟨start, ⟨seed, hseed, htype⟩, hreach⟩
    exact ⟨seed, hseed, start, htype, hreach⟩
  · rintro ⟨seed, hseed, start, htype, hreach⟩
    exact ⟨start, ⟨seed, hseed, htype⟩, hreach⟩

theorem IsReached.holds {set : SchemaSet} {options : Options} {good : TypeId → Prop}
    (hseeds : ∀ seed ∈ seeds set options, ∀ id, seed.type? set = some id → good id)
    (hrefers : ∀ id next, good id → set.Refers id next → good next) {id : TypeId}
    (h : IsReached set options id) : good id := by
  obtain ⟨seed, hseed, start, hstart, hreach⟩ := isReached_iff.mp h
  clear h
  induction hreach with
  | refl => exact hseeds seed hseed _ hstart
  | tail _ hnext ih => exact hrefers _ _ ih hnext

end Emission

open Emission

namespace SchemaSet.Paired

variable (h : first.Paired pairing second)

include h

theorem complexType?_rel {member member' : Member} (hmember : member.Matches pairing member') :
    Option.Rel pairing.id (member.complexType? first.answers)
      (member'.complexType? second.answers) := by
  obtain ⟨name, source⟩ := member
  obtain ⟨name', source'⟩ := member'
  obtain ⟨_, hsource⟩ := hmember
  cases hsource with
  | declaredAttribute _ => exact .none
  | @declaredElement a b context hpaired =>
      have htype := h.answers.elementType a b hpaired
      dsimp only [Member.complexType?]
      generalize first.answers.elementType a = target at htype ⊢
      generalize second.answers.elementType b = target' at htype ⊢
      cases htype with
      | error _ => exact .none
      | ok htarget => exact complex?_rel htarget

theorem successors_rel {a b : TypeId} (hpaired : pairing.id a b) :
    List.Forall₂ pairing.id (first.successors a) (second.successors b) := by
  have hcontent := h.answers.content a b hpaired
  unfold successors
  generalize first.answers.content a = content at hcontent ⊢
  generalize second.answers.content b = content' at hcontent ⊢
  cases hcontent with
  | error _ => exact .nil
  | ok hmatches =>
      exact List.rel_append (toList_rel hmatches.base)
        (List.rel_filterMap (fun _ _ hmember => h.complexType?_rel hmember) hmatches.members)

theorem exists_of_refers {a b c : TypeId} (hpaired : pairing.id a b)
    (hreach : ReflTransGen first.Refers a c) :
    ∃ d, pairing.id c d ∧ ReflTransGen second.Refers b d := by
  have hstep : ∀ a b : TypeId, pairing.id a b → ∀ c, first.Refers a c →
      ∃ d, second.Refers b d ∧ pairing.id c d := fun a b hsame c hnext =>
    exists_rel_of_mem (h.successors_rel hsame) hnext
  exact exists_rel_of_reflTransGen hstep hpaired hreach

variable {seed seed' : Seed} (hseed : seed.Matches pairing seed')

include hseed

theorem type?_rel : Option.Rel pairing.id (seed.type? first) (seed'.type? second) := by
  cases hseed with
  | type hpaired => exact .some hpaired
  | @element a b hpaired =>
      have htype := h.answers.elementType a b hpaired
      simp only [Seed.type?]
      generalize first.answers.elementType a = target at htype ⊢
      generalize second.answers.elementType b = target' at htype ⊢
      cases htype with
      | error _ => exact .none
      | ok htarget => exact complex?_rel htarget

theorem known_iff : seed.Known first ↔ seed'.Known second := by
  cases hseed with
  | type hpaired => exact Iff.rfl
  | @element a b hpaired =>
      have htype := h.answers.elementType a b hpaired
      simp only [Seed.Known]
      generalize first.answers.elementType a = target at htype ⊢
      generalize second.answers.elementType b = target' at htype ⊢
      cases htype with
      | error _ => simp
      | ok htarget => simp

theorem exists_of_leads {a : TypeId} (hleads : seed.Leads first a) :
    ∃ b, pairing.id a b ∧ seed'.Leads second b := by
  obtain ⟨start, hstart, hreach⟩ := hleads
  have htype := h.type?_rel hseed
  rw [hstart] at htype
  generalize hstart' : seed'.type? second = start' at htype
  cases htype with
  | some hpaired =>
      obtain ⟨b, hb, hreach'⟩ := h.exists_of_refers hpaired hreach
      exact ⟨b, hb, _, hstart', hreach'⟩

omit hseed

theorem exists_typeDef {a b : TypeId} (hpaired : pairing.id a b) :
    ∃ type type', first.typeDef a = .ok type ∧ second.typeDef b = .ok type' ∧
      type.Matches pairing type' := by
  obtain ⟨type, type', htype, htype', hmatches⟩ := h.exists_type hpaired
  exact ⟨type, type', typeDef_of_type? htype, typeDef_of_type? htype', hmatches⟩

theorem becomes_iff (hdocumented : pairing.documented) (options : Options) {a b : TypeId}
    (hpaired : pairing.id a b) (file : GeneratedFile) :
    Becomes first options a file ↔ Becomes second options b file := by
  obtain ⟨type, type', htype, htype', hmatches⟩ := h.exists_typeDef hpaired
  have hfile := h.structFile options hpaired hmatches
  simp only [Becomes, htype, htype', Except.ok.injEq, exists_and_left, exists_eq_left']
  generalize Works.structFile first options first.answers a type = result at hfile
  generalize Works.structFile second options second.answers b type' = result' at hfile
  cases hfile with
  | error _ => simp
  | @ok made made' hmade =>
      simp only [Except.ok.injEq, exists_eq_left', hmade.package_eq, hmade.name_eq,
        hmade.text_eq hdocumented]

end SchemaSet.Paired

theorem Emission.collide_iff (options : Options) {pairing' : Pairing}
    {type type' other other' : TypeDef} (htype : type.Matches pairing type')
    (hother : other.Matches pairing' other') :
    Collide options type other ↔ Collide options type' other' := by
  rw [Collide, Collide, htype.structKey_eq, hother.structKey_eq, htype.package_eq,
    hother.package_eq, htype.structName_eq, hother.structName_eq]

end SchemaBinding
