import Mathlib.Logic.Relation
import SchemaBinding.Proofs.SchemaSet.Linkage

namespace SchemaBinding

open Relation (TransGen)

/-! A set seen through itself. -/

def Linkage.same (set : SchemaSet) (layout : Layout) : Linkage where
  documents id other := id = other ∧ set.Loaded id
  parts part other := part = other ∧ set.IsPart layout part

namespace SchemaSet

variable {permissive : Bool} {set : SchemaSet} {layout : Layout}

/-- A set is linked to itself by whatever links only loaded documents and their parts, each to
itself. -/
theorem LaidOut.linked_of_eq (h : set.LaidOut permissive layout) {linkage : Linkage}
    (hdocuments : ∀ id other, linkage.documents id other → id = other ∧ set.Loaded id)
    (hparts : ∀ part other, linkage.parts part other → part = other ∧ set.IsPart layout part ∧
      linkage.documents part.document part.document) :
    set.Linked linkage permissive set layout layout where
  laidOut := h
  laidOut' := h
  document {id id'} hsame := by
    obtain ⟨rfl, document, hdocument⟩ := hdocuments _ _ hsame
    exact ⟨document, document, hdocument, hdocument, rfl⟩
  part {part other} hsame := by
    obtain ⟨rfl, hpart, hwithin⟩ := hparts _ _ hsame
    exact ⟨hpart, hpart, hwithin, Xml.Element.same_refl _⟩
  unique hsame hsame' := by rw [(hparts _ _ hsame).1, (hparts _ _ hsame').1]

theorem LaidOut.linked (h : set.LaidOut permissive layout) :
    set.Linked (.same set layout) permissive set layout layout := by
  apply h.linked_of_eq
  · exact fun _ _ hsame => hsame
  · rintro part other ⟨rfl, hpart⟩
    obtain ⟨document, hdocument, hmem⟩ := hpart
    exact ⟨rfl, ⟨document, hdocument, hmem⟩, rfl, document, hdocument⟩

/-- What a component refers to by number. -/
def Mentions (set : SchemaSet) (symbol next : Symbol) : Prop :=
  ∃ component, set.model.component? symbol.id = some component ∧
    next ∈ (Component.mentions component).symbols

/-- A type is found in another one by following numbers, through particles, elements and
attributes. -/
def Encloses (set : SchemaSet) (outer inner : TypeId) : Prop :=
  TransGen set.Mentions ⟨.type, outer⟩ ⟨.type, inner⟩

end SchemaSet

def Base.Gained (base : Base) (model : Model) (symbol : Symbol) : Prop :=
  base.first.size symbol.kind ≤ symbol.id.index ∧ symbol.id.index < model.size symbol.kind

namespace Base.Abreast

variable {base : Base} {stage other : Model} {set : SchemaSet} {symbol next : Symbol}

/-- When a component was added, all that it refers to had been gained. -/
theorem exists_before (h : base.Abreast stage other) (hsame : base.first = base.second)
    (hgrows : stage.Prefix set.model) (hsymbol : base.Gained stage symbol) :
    ∃ earlier other', base.Abreast earlier other' ∧ earlier.Prefix stage ∧
      earlier.size symbol.kind = symbol.id.index ∧
        ∀ next, set.Mentions symbol next → base.Gained earlier next := by
  have hpaired : (base.upTo stage.size).id symbol.id symbol.id :=
    ⟨hsymbol.1, hsymbol.2, by rw [hsame]⟩
  obtain ⟨earlier, other', component, counterpart, habreast, hgrown, _, hsize, hcomponent, _,
    hmatches⟩ := h.exists_stage hpaired
  refine ⟨earlier, other', habreast, hgrown, hsize, ?_⟩
  rintro next ⟨found, hfound, hmem⟩
  rw [hgrows.component?_of_some hcomponent] at hfound
  cases hfound
  obtain ⟨_, _, hmatch⟩ :=
    exists_rel_of_mem (Component.mentions_matches hmatches.here).symbols hmem
  cases hmatch with
  | mk hgained => exact ⟨hgained.1, hgained.2.1⟩

theorem gained_of_leads {symbol : Symbol} (h : base.Abreast stage other)
    (hsame : base.first = base.second) (hgrows : stage.Prefix set.model)
    (hfirst : ∀ next, set.Mentions symbol next → base.Gained stage next)
    (hleads : TransGen set.Mentions symbol next) : base.Gained stage next := by
  induction hleads with
  | single hnext => exact hfirst _ hnext
  | tail _ hnext ih =>
      obtain ⟨earlier, _, _, hgrown, _, hall⟩ := h.exists_before hsame hgrows ih
      obtain ⟨hle, hlt⟩ := hall _ hnext
      exact ⟨hle, Nat.lt_of_lt_of_le hlt (hgrown.size_le _)⟩

end Base.Abreast

namespace SchemaSet.LaidOut

variable {permissive : Bool} {set : SchemaSet} {layout : Layout}
  (h : set.LaidOut permissive layout)

include h

theorem index_lt_of_leads {kind : SymbolKind} {outer inner : Id kind}
    (hleads : TransGen set.Mentions ⟨kind, outer⟩ ⟨kind, inner⟩) : inner.index < outer.index := by
  obtain ⟨_, ⟨component, hcomponent, _⟩, _⟩ := TransGen.head'_iff.mp hleads
  obtain ⟨part, hpart, hholds⟩ := h.exists_part (Model.index_lt_of_component? hcomponent)
  have habreast := (h.linked.abreast ⟨rfl, hpart⟩).1
  have hpast : (part.base part (Linkage.same set layout).documents).Gained part.after
      ⟨kind, outer⟩ := hholds
  obtain ⟨earlier, other, hearlier, hgrown, hsize, hall⟩ :=
    habreast.exists_before rfl (h.grows hpart) hpast
  have hgained := hearlier.gained_of_leads rfl (hgrown.trans (h.grows hpart)) hall hleads
  rw [← hsize]
  exact hgained.2

theorem index_lt_of_encloses {outer inner : TypeId} (hencloses : set.Encloses outer inner) :
    inner.index < outer.index :=
  h.index_lt_of_leads hencloses

theorem wellFounded_encloses : WellFounded fun inner outer => set.Encloses outer inner :=
  Subrelation.wf (fun hencloses => h.index_lt_of_encloses hencloses)
    (InvImage.wf Id.index Nat.lt_wfRel.wf)

end SchemaSet.LaidOut

end SchemaBinding
