import SchemaBinding.Proofs.SchemaSet.Enclosed

namespace SchemaBinding

open Relation (ReflTransGen)

def Linkage.only (set : SchemaSet) (layout : Layout) (home : DocumentId) : Linkage where
  documents id other := id = other ∧ id = home ∧ set.Loaded id
  parts part other := part = other ∧ set.IsPart layout part ∧ part.document = home

namespace SchemaSet

/-- All spans in a component are in one document. -/
def WrittenIn (set : SchemaSet) (symbol : Symbol) (home : DocumentId) : Prop :=
  ∀ component, set.model.component? symbol.id = some component →
    ∀ document ∈ (Component.mentions component).documents, document = home

namespace LaidOut

variable {permissive : Bool} {set : SchemaSet} {layout : Layout} {home : DocumentId}
  (h : set.LaidOut permissive layout)

include h

theorem linked_only : set.Linked (.only set layout home) permissive set layout layout := by
  apply h.linked_of_eq
  · rintro id other ⟨rfl, _, hloaded⟩
    exact ⟨rfl, hloaded⟩
  · rintro part other ⟨rfl, hpart, hhome⟩
    obtain ⟨document, hdocument, hmem⟩ := hpart
    exact ⟨rfl, ⟨document, hdocument, hmem⟩, rfl, hhome, document, hdocument⟩

omit h in
theorem only_self {part : Part} (hpart : set.IsPart layout part) (hhome : part.document = home)
    {kind : SymbolKind} {id : Id kind} (hholds : part.Holds id) :
    (Linkage.only set layout home).pairing.id id id :=
  ⟨part, part, ⟨rfl, hpart, hhome⟩, hholds.1, hholds.2, rfl⟩

theorem mentions_only {kind : SymbolKind} {id other : Id kind}
    (hpaired : (Linkage.only set layout home).pairing.id id other) {component : Component kind}
    (hcomponent : set.model.component? id = some component) :
    ∃ counterpart : Component kind, (Component.mentions component).Matches
      (Linkage.only set layout home).pairing (Component.mentions counterpart) := by
  obtain ⟨found, counterpart, hfound, _, hmatches⟩ := h.linked_only.component hpaired
  cases hfound.symm.trans hcomponent
  exact ⟨counterpart, Component.mentions_matches hmatches⟩

theorem writtenIn_of_paired {kind : SymbolKind} {id other : Id kind}
    (hpaired : (Linkage.only set layout home).pairing.id id other) :
    set.WrittenIn ⟨kind, id⟩ home := by
  intro component hcomponent document hdocument
  obtain ⟨counterpart, hmatches⟩ := h.mentions_only hpaired hcomponent
  obtain ⟨_, _, _, hhome, _⟩ := exists_rel_of_mem hmatches.documents hdocument
  exact hhome

theorem paired_of_mentions {symbol next : Symbol} {other : Id symbol.kind}
    (hpaired : (Linkage.only set layout home).pairing.id symbol.id other)
    (hnext : set.Mentions symbol next) :
    ∃ other, (Linkage.only set layout home).pairing.id next.id other := by
  obtain ⟨component, hcomponent, hmem⟩ := hnext
  obtain ⟨counterpart, hmatches⟩ := h.mentions_only hpaired hcomponent
  obtain ⟨_, _, hmatch⟩ := exists_rel_of_mem hmatches.symbols hmem
  cases hmatch with
  | mk hpaired => exact ⟨_, hpaired⟩

theorem paired_of_reach {symbol next : Symbol} {other : Id symbol.kind}
    (hpaired : (Linkage.only set layout home).pairing.id symbol.id other)
    (hreach : ReflTransGen set.Mentions symbol next) :
    ∃ other, (Linkage.only set layout home).pairing.id next.id other := by
  induction hreach with
  | refl => exact ⟨other, hpaired⟩
  | tail _ hnext ih =>
      obtain ⟨_, hmiddle⟩ := ih
      exact h.paired_of_mentions hmiddle hnext

theorem exists_home {symbol : Symbol} (hlt : symbol.id.index < set.model.size symbol.kind) :
    ∃ home, ∀ next, ReflTransGen set.Mentions symbol next → set.WrittenIn next home := by
  obtain ⟨part, hpart, hholds⟩ := h.exists_part hlt
  refine ⟨part.document, ?_⟩
  intro next hreach
  obtain ⟨_, hpaired⟩ := h.paired_of_reach (only_self hpart rfl hholds) hreach
  exact h.writtenIn_of_paired hpaired

end LaidOut

/-- A component and all that numbers lead to from it are written where any of its spans is. -/
theorem writtenIn_of_load {tree : FileTree} {roots : List Path} {limits : Limits}
    {permissive : Bool} {set : SchemaSet} (h : load tree roots limits permissive = .ok set)
    {kind : SymbolKind} {id : Id kind} {component : Component kind}
    (hcomponent : set.model.component? id = some component) {document : DocumentId}
    (hdocument : document ∈ (Component.mentions component).documents) {next : Symbol}
    (hreach : ReflTransGen set.Mentions ⟨kind, id⟩ next) : set.WrittenIn next document := by
  obtain ⟨layout, hlaid⟩ := exists_layout_of_load h
  have hlt : id.index < set.model.size kind := Model.index_lt_of_component? hcomponent
  obtain ⟨home, hhome⟩ : ∃ home, ∀ next, ReflTransGen set.Mentions ⟨kind, id⟩ next →
      set.WrittenIn next home := hlaid.exists_home hlt
  have hsame := hhome ⟨kind, id⟩ .refl component hcomponent document hdocument
  rw [hsame]
  exact hhome next hreach

end SchemaSet

end SchemaBinding
