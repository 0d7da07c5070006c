import SchemaBinding.Proofs.SchemaSet.Alongside
import SchemaBinding.Proofs.SchemaSet.Linkage

namespace SchemaBinding

open Reading

theorem Setting.Holds.document_eq {setting : Setting} {location : Location}
    {document document' : Xml.Document} {schema schema' : Schema}
    (h : setting.Holds location document schema) (h' : setting.Holds location document' schema') :
    document = document' :=
  congrArg Prod.fst (eq_of_ok (contents_eq_ok_iff.mpr h) (contents_eq_ok_iff.mpr h'))

namespace Part.Chain

variable {origin origin' : Origin} {position : Nat} {first first' last last' : Model}
  {parts parts' : List Part}

/-- Readings of the same children have parts in the same positions. -/
theorem forall₂_of_children (h : Chain origin position first parts last)
    (h' : Chain origin' position first' parts' last')
    (hchildren : parts.map Part.child = parts'.map Part.child) :
    List.Forall₂ (fun part other => part.position = other.position ∧ part.child = other.child)
      parts parts' := by
  induction h generalizing first' parts' with
  | nil =>
      cases List.map_eq_nil_iff.mp hchildren.symm
      exact .nil
  | cons _ _ ih =>
      cases h' with
      | nil => cases hchildren
      | cons _ hrest =>
          obtain ⟨hchild, hrestChildren⟩ := List.cons.inj hchildren
          exact .cons ⟨rfl, hchild⟩ (ih hrest hrestChildren)

theorem eq_of_position (h : Chain origin position first parts last) (hparts : Ordinary parts)
    {part other : Part} (hpart : part ∈ parts) (hother : other ∈ parts)
    (hposition : part.position = other.position) : part = other := by
  have hpairwise : parts.Pairwise fun part other => part.position = other.position →
      part = other :=
    (h.pairwise hparts).imp fun hpair heq => absurd heq (Nat.ne_of_lt hpair.2)
  have hbackward : parts.Pairwise (flip fun part other => part.position = other.position →
      part = other) :=
    hpairwise.imp fun hpair heq => (hpair heq.symm).symm
  exact List.Pairwise.forall_of_forall_of_flip (fun _ _ _ => rfl) hpairwise hbackward hpart hother
    hposition

end Part.Chain

namespace SchemaSet

variable {setting : Setting} {first second : SchemaSet} {layout layout' : Layout}

def byPosition (first second : SchemaSet) (layout layout' : Layout) : Linkage where
  documents := first.Alongside second
  parts part other := first.IsPart layout part ∧ second.IsPart layout' other ∧
    first.Alongside second part.document other.document ∧ part.position = other.position

/-- Two sets that were loaded in one setting. -/
structure Shares (setting : Setting) (first second : SchemaSet) (layout layout' : Layout) :
    Prop where
  laidOut : first.LaidOut setting.permissive layout
  laidOut' : second.LaidOut setting.permissive layout'
  closure : ∃ roots, first.ClosureOf setting roots
  closure' : ∃ roots, second.ClosureOf setting roots

namespace Shares

variable (h : first.Shares setting second layout layout')

include h

theorem biUnique : Relator.BiUnique (first.Alongside second) := by
  obtain ⟨roots, hclosure⟩ := h.closure
  obtain ⟨roots', hclosure'⟩ := h.closure'
  exact hclosure.biUnique hclosure'

theorem exists_documents {id id' : DocumentId} (halong : first.Alongside second id id') :
    ∃ document document', first.document? id = some document ∧
      second.document? id' = some document' ∧ document.path = document'.path ∧
        document.document = document'.document := by
  obtain ⟨roots, hclosure⟩ := h.closure
  obtain ⟨roots', hclosure'⟩ := h.closure'
  obtain ⟨document, document', hdocument, hdocument', hpath⟩ := alongside_iff.mp halong
  obtain ⟨schema, hholds, _⟩ := hclosure.holds document (Array.mem_of_getElem? hdocument)
  obtain ⟨schema', hholds', _⟩ := hclosure'.holds document' (Array.mem_of_getElem? hdocument')
  rw [hpath] at hholds
  exact ⟨document, document', hdocument, hdocument', hpath, hholds.document_eq hholds'⟩

theorem parts_rel {id id' : DocumentId} (halong : first.Alongside second id id') :
    List.Forall₂ (fun part other =>
        (byPosition first second layout layout').parts part other ∧ part.child = other.child)
      (layout.parts id.index) (layout'.parts id'.index) := by
  obtain ⟨document, document', hdocument, hdocument', _, hsame⟩ := h.exists_documents halong
  have hlaid := h.laidOut.document id document hdocument
  have hlaid' := h.laidOut'.document id' document' hdocument'
  have hchildren : (layout.parts id.index).map Part.child =
      (layout'.parts id'.index).map Part.child := by
    rw [hlaid.children, hlaid'.children, hsame]
  have hall := hlaid.chain.forall₂_of_children hlaid'.chain hchildren
  have hleft := (List.forall₂_and_left _ _).mpr ⟨fun part hpart => hpart, hall⟩
  have hboth := (List.forall₂_and_left _ _).mpr ⟨fun other hother => hother, hleft.flip⟩
  apply hboth.flip.imp
  rintro part other ⟨hother, hpart, hposition, hchild⟩
  obtain ⟨rfl, hisPart⟩ := h.laidOut.isPart hdocument hpart
  obtain ⟨rfl, hisOther⟩ := h.laidOut'.isPart hdocument' hother
  exact ⟨⟨hisPart, hisOther, halong, hposition⟩, hchild⟩

theorem child_eq {part other : Part}
    (hparts : (byPosition first second layout layout').parts part other) :
    part.child = other.child := by
  obtain ⟨⟨document, hdocument, hpart⟩, ⟨document', hdocument', hother⟩, halong, hposition⟩ :=
    hparts
  obtain ⟨found, hfound, ⟨_, _, _, hsame⟩, hchild⟩ :=
    exists_rel_of_mem (h.parts_rel halong) hpart
  rw [(h.laidOut'.document _ document' hdocument').chain.eq_of_position
    (h.laidOut'.chain_ordinary hdocument') hother hfound (hposition.symm.trans hsame), hchild]

theorem linked :
    first.Linked (byPosition first second layout layout') setting.permissive second layout
      layout' where
  laidOut := h.laidOut
  laidOut' := h.laidOut'
  document {id id'} halong := by
    obtain ⟨document, document', hdocument, hdocument', _, hsame⟩ := h.exists_documents halong
    exact ⟨document, document', hdocument, hdocument', by rw [hsame]⟩
  part {part other} hparts := by
    refine ⟨hparts.1, hparts.2.1, hparts.2.2.1, ?_⟩
    rw [h.child_eq hparts]
    exact Xml.Element.same_refl _
  unique {part part' other other'} hparts hparts' := by
    obtain ⟨hpart, hother, halong, hposition⟩ := hparts
    obtain ⟨hpart', hother', halong', hposition'⟩ := hparts'
    obtain ⟨document, hdocument, hmem⟩ := hpart
    obtain ⟨document', hdocument', hmem'⟩ := hother
    obtain ⟨found, hfound, hmemFound⟩ := hpart'
    obtain ⟨found', hfound', hmemFound'⟩ := hother'
    constructor
    · rintro rfl
      have hdocuments := h.biUnique.2 halong halong'
      rw [← hdocuments] at hmemFound'
      exact (h.laidOut'.document _ document' hdocument').chain.eq_of_position
        (h.laidOut'.chain_ordinary hdocument') hmem' hmemFound' (hposition.symm.trans hposition')
    · rintro rfl
      have hdocuments := h.biUnique.1 halong halong'
      rw [← hdocuments] at hmemFound
      exact (h.laidOut.document _ document hdocument).chain.eq_of_position
        (h.laidOut.chain_ordinary hdocument) hmem hmemFound (hposition.trans hposition'.symm)

theorem symbols_rel {id id' : DocumentId} (halong : first.Alongside second id id')
    (kind : SymbolKind) (name : String) :
    Option.Rel (byPosition first second layout layout').pairing.id
      ((layout.parts id.index).findSome? fun part => part.symbol? kind name)
      ((layout'.parts id'.index).findSome? fun part => part.symbol? kind name) :=
  findSome?_forall₂ (h.parts_rel halong) fun _ _ hparts => h.linked.symbol?_rel hparts.1 kind name

theorem paired : first.Paired (byPosition first second layout layout').pairing second := by
  obtain ⟨roots, hclosure⟩ := h.closure
  obtain ⟨roots', hclosure'⟩ := h.closure'
  apply h.linked.paired
  · intro id id' halong
    exact visible_rel h.biUnique (hclosure.linksAlike_links hclosure' fun _ _ => rfl) halong
  · intro id id' halong
    exact h.symbols_rel halong

end Shares

end SchemaSet

end SchemaBinding
