import SchemaBinding.Proofs.Resolution.Paired
import SchemaBinding.Proofs.SchemaSet.Parts

namespace SchemaBinding

open Reading

/-- Which documents and which parts of two sets are the same. -/
structure Linkage where
  documents : DocumentId → DocumentId → Prop
  parts : Part → Part → Prop

/-- Numbers are paired that linked parts gave out in the same place. -/
def Linkage.pairing (linkage : Linkage) : Pairing where
  id a b := ∃ part other, linkage.parts part other ∧
    (part.pairing other linkage.documents).id a b
  document := linkage.documents

theorem Linkage.within (linkage : Linkage) {part other : Part}
    (h : linkage.parts part other) :
    (part.pairing other linkage.documents).Within linkage.pairing where
  id hpaired := ⟨part, other, h, hpaired⟩
  document h := h
  documented h := h

structure SchemaSet.Linked (linkage : Linkage) (permissive : Bool) (first second : SchemaSet)
    (layout layout' : Layout) : Prop where
  laidOut : first.LaidOut permissive layout
  laidOut' : second.LaidOut permissive layout'
  document : ∀ {id id' : DocumentId}, linkage.documents id id' →
    ∃ document document', first.document? id = some document ∧
      second.document? id' = some document' ∧
        Schema.targetSpaceOf document.document.root = Schema.targetSpaceOf document'.document.root
  part : ∀ {part other : Part}, linkage.parts part other →
    first.IsPart layout part ∧ second.IsPart layout' other ∧
      linkage.documents part.document other.document ∧
        part.child.element.Same other.child.element
  unique : ∀ {part part' other other' : Part}, linkage.parts part other →
    linkage.parts part' other' → (part = part' ↔ other = other')

namespace SchemaSet.Linked

variable {linkage : Linkage} {permissive : Bool} {first second : SchemaSet}
  {layout layout' : Layout} (h : first.Linked linkage permissive second layout layout')

include h

theorem exists_read {part other : Part} (hparts : linkage.parts part other) :
    ∃ origin origin', Origin.Beside (part.base other linkage.documents) origin origin' ∧
      part.child.InStep (part.base other linkage.documents) other.child ∧
      part.child.declared origin part.before = .ok (part.named, part.after) ∧
      other.child.declared origin' other.before = .ok (other.named, other.after) := by
  obtain ⟨⟨document, hdocument, hmem⟩, ⟨document', hdocument', hmem'⟩, hdocuments, hsame⟩ :=
    h.part hparts
  obtain ⟨found, found', hfound, hfound', hspace⟩ := h.document hdocuments
  rw [hdocument] at hfound
  rw [hdocument'] at hfound'
  cases hfound
  cases hfound'
  obtain ⟨element, _, helement⟩ := h.laidOut.ordinary hdocument hmem
  obtain ⟨element', _, helement'⟩ := h.laidOut'.ordinary hdocument' hmem'
  refine ⟨document.origin permissive part.document, document'.origin permissive other.document,
    ⟨hdocuments, hspace, .inl rfl⟩, ?_, ((h.laidOut.document _ _ hdocument).chain.read hmem).2,
    ((h.laidOut'.document _ _ hdocument').chain.read hmem').2⟩
  rw [helement, helement'] at hsame ⊢
  exact inStep_of _ element element' (hsame.akin _)

theorem abreast {part other : Part} (hparts : linkage.parts part other) :
    (part.base other linkage.documents).Abreast part.after other.after ∧
      Option.Rel (NamedMatches (part.pairing other linkage.documents)) part.named other.named := by
  obtain ⟨origin, origin', horigin, hchild, hread, hread'⟩ := h.exists_read hparts
  exact Part.stepsTo_of_declared horigin hchild hread hread'

theorem holds {part other : Part} (hparts : linkage.parts part other) {kind : SymbolKind}
    {a b : Id kind} (hpaired : (part.pairing other linkage.documents).id a b) :
    part.Holds a ∧ other.Holds b := by
  have hsize := (h.abreast hparts).1.size_eq kind
  obtain ⟨hle, hlt, hoffset⟩ := hpaired
  simp only [Part.base] at hsize hle hoffset
  refine ⟨⟨hle, hlt⟩, ?_, ?_⟩ <;> omega

theorem component {kind : SymbolKind} {a b : Id kind} (hpaired : linkage.pairing.id a b) :
    ∃ component other : Component kind, first.model.component? a = some component ∧
      second.model.component? b = some other ∧ component.Matches linkage.pairing other := by
  obtain ⟨part, other, hparts, hpaired⟩ := hpaired
  have habreast := (h.abreast hparts).1
  obtain ⟨hpart, hother, _, _⟩ := h.part hparts
  obtain ⟨stage, stage', component, counterpart, _, hstage, _, _, hcomponent, hcounterpart,
    hmatches⟩ := habreast.exists_stage hpaired
  refine ⟨component, counterpart, (h.laidOut.grows hpart).component?_of_some hcomponent,
    (h.laidOut'.grows hother).component?_of_some hcounterpart, ?_⟩
  exact (hmatches.mono hstage.size_le) _ (linkage.within hparts)

theorem id_unique {kind : SymbolKind} {a a' b b' : Id kind} (hpaired : linkage.pairing.id a b)
    (hpaired' : linkage.pairing.id a' b') : a = a' ↔ b = b' := by
  obtain ⟨part, other, hparts, hpaired⟩ := hpaired
  obtain ⟨part', other', hparts', hpaired'⟩ := hpaired'
  obtain ⟨hholds, hcounterpart⟩ := h.holds hparts hpaired
  obtain ⟨hholds', hcounterpart'⟩ := h.holds hparts' hpaired'
  have hunique := h.unique hparts hparts'
  have hoffset : b.index + part.before.size kind = a.index + other.before.size kind := hpaired.2.2
  have hoffset' : b'.index + part'.before.size kind = a'.index + other'.before.size kind :=
    hpaired'.2.2
  constructor
  · rintro rfl
    cases h.laidOut.eq_of_holds (h.part hparts).1 (h.part hparts').1 hholds hholds'
    cases hunique.mp rfl
    exact Id.eq_of_index (by omega)
  · rintro rfl
    cases h.laidOut'.eq_of_holds (h.part hparts).2.1 (h.part hparts').2.1 hcounterpart
      hcounterpart'
    cases hunique.mpr rfl
    exact Id.eq_of_index (by omega)

theorem symbol?_rel {part other : Part} (hparts : linkage.parts part other) (kind : SymbolKind)
    (name : String) :
    Option.Rel linkage.pairing.id (part.symbol? kind name) (other.symbol? kind name) := by
  have hnamed := (h.abreast hparts).2
  unfold Part.symbol?
  generalize part.named = named at hnamed ⊢
  generalize other.named = named' at hnamed ⊢
  cases hnamed with
  | none => exact .none
  | @some named named' hmatches =>
      obtain ⟨found, symbol⟩ := named
      obtain ⟨found', symbol'⟩ := named'
      obtain ⟨hname, hsymbol⟩ := hmatches
      cases hname
      cases hsymbol with
      | @mk found _ _ hpaired =>
          simp only [Option.bind_some]
          split
          case isTrue hkey =>
              obtain ⟨rfl, rfl⟩ := hkey
              exact .some ((linkage.within hparts).id hpaired)
          case isFalse => exact .none

theorem exists_names {id id' : DocumentId} (hdocuments : linkage.documents id id')
    (hsymbols : ∀ kind name, Option.Rel linkage.pairing.id
      ((layout.parts id.index).findSome? fun part => part.symbol? kind name)
      ((layout'.parts id'.index).findSome? fun part => part.symbol? kind name))
    {document : SchemaDocument} (hdocument : first.document? id = some document) :
    ∃ document', second.document? id' = some document' ∧
      ∀ kind name, Option.Rel linkage.pairing.id (document.symbols.get? kind name)
        (document'.symbols.get? kind name) := by
  obtain ⟨_, document', _, hdocument', _⟩ := h.document hdocuments
  refine ⟨document', hdocument', ?_⟩
  intro kind name
  rw [h.laidOut.get?_eq hdocument, h.laidOut'.get?_eq hdocument']
  exact hsymbols kind name

/-- Sets are paired if linked documents see linked documents, and if names stand for what is
paired in these. -/
theorem paired
    (hvisible : ∀ {id id' : DocumentId}, linkage.documents id id' →
      List.Forall₂ linkage.documents (first.visible id) (second.visible id'))
    (hsymbols : ∀ {id id' : DocumentId}, linkage.documents id id' → ∀ kind name,
      Option.Rel linkage.pairing.id
        ((layout.parts id.index).findSome? fun part => part.symbol? kind name)
        ((layout'.parts id'.index).findSome? fun part => part.symbol? kind name)) :
    first.Paired linkage.pairing second where
  component := h.component
  unique := h.id_unique
  lookup kind name {id id'} hdocuments := by
    have hdeclared : ∀ {id id' : DocumentId}, linkage.documents id id' →
        Option.Rel linkage.pairing.id (first.declaredIn? kind name id)
          (second.declaredIn? kind name id') := by
      intro id id' hsame
      obtain ⟨document, document', hdocument, hdocument', hspace⟩ := h.document hsame
      rw [h.laidOut.declaredIn?_eq hdocument, h.laidOut'.declaredIn?_eq hdocument', hspace]
      split
      · exact hsymbols hsame kind name.localName
      · exact .none
    exact findSome?_forall₂ (hvisible hdocuments) fun _ _ => hdeclared

end SchemaSet.Linked

end SchemaBinding
