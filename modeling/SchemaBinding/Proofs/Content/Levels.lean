import SchemaBinding.Proofs.Content.Effective
import Mathlib

namespace SchemaBinding

open Relation (TransGen)

namespace Content

/-- The content is what its parts say, with those of the entries that count. -/
structure Fits (content : Content) (parts : ContentParts) : Prop where
  members : content.members = kept parts.taken parts.entries
  fieldNames : ∀ name,
    name ∈ content.fieldNames ↔ name ∈ parts.taken ∨ name ∈ names parts.entries
  base : content.base = parts.base
  text : content.text = parts.text

/-- The field names at the type's own level: that of its text, and those of its members. -/
def declared (content : Content) : List String :=
  content.text.toList.map (fun _ => textFieldName) ++ names content.members

theorem fits_addAll (parts : ContentParts) : (parts.start.addAll parts.entries).Fits parts := by
  rw [addAll_eq]
  exact ⟨rfl, fun _ => mem_fieldNames_extendedBy_iff, rfl, rfl⟩

theorem mem_declared_iff {content : Content} {name : String} : name ∈ content.declared ↔
    content.text.isSome ∧ name = textFieldName ∨ name ∈ names content.members := by
  rw [declared, List.mem_append, or_congr_left]
  cases content.text <;> simp

namespace Fits

variable {content : Content} {parts : ContentParts}

theorem not_taken (h : content.Fits parts) {name : String} (hname : name ∈ names content.members) :
    name ∉ parts.taken := by
  rw [h.members] at hname
  exact (mem_names_kept_iff.mp hname).1

theorem nodup_declared (h : content.Fits parts)
    (htext : parts.text.isSome → textFieldName ∈ parts.taken) : content.declared.Nodup := by
  have hmembers : (names content.members).Nodup := by
    rw [h.members]
    exact nodup_names_kept parts.taken parts.entries
  rw [declared, h.text]
  cases hfound : parts.text with
  | none => exact hmembers
  | some text =>
      have hfree : textFieldName ∉ names content.members := by
        intro hmem
        exact h.not_taken hmem (htext (by rw [hfound]; rfl))
      exact List.nodup_cons.mpr ⟨hfree, hmembers⟩

theorem mem_fieldNames_of_declared (h : content.Fits parts)
    (htext : parts.text.isSome → textFieldName ∈ parts.taken) {name : String}
    (hname : name ∈ content.declared) : name ∈ content.fieldNames := by
  rw [h.fieldNames]
  rcases mem_declared_iff.mp hname with ⟨hsome, rfl⟩ | hmember
  · rw [h.text] at hsome
    exact .inl (htext hsome)
  · rw [h.members] at hmember
    exact .inr (mem_names_kept_iff.mp hmember).2

end Fits

end Content

namespace SchemaSet

def IsSimpleContent (set : SchemaSet) (id : TypeId) : Prop :=
  ∃ type derivation mixed, set.typeDef id = .ok type ∧
    type.body = .complex (.simple derivation) mixed

/-- The type has complex content that extends a complex type. -/
def Extends (set : SchemaSet) (id base : TypeId) : Prop :=
  ∃ type derivation mixed, set.typeDef id = .ok type ∧
    type.body = .complex (.complex derivation) mixed ∧ derivation.method = .extension ∧
    set.resolveTypeName derivation.base derivation.span = .ok (.complex base)

def Embeds (set : SchemaSet) (id base : TypeId) : Prop :=
  ∃ content, set.HasContent id content ∧ content.base = some base

variable {set : SchemaSet} {id : TypeId} {parts : ContentParts}

namespace PartsOf

variable {body : TypeBody}

theorem taken_of_text (h : set.PartsOf id body parts) :
    parts.text.isSome → Content.textFieldName ∈ parts.taken := by
  intro htext
  cases h with
  | flattened => exact List.mem_singleton_self Content.textFieldName
  | simple => exact List.mem_singleton_self Content.textFieldName
  | direct | embedded | anything | restriction => cases htext

theorem inherited_of_base (h : set.PartsOf id body parts) {base : TypeId}
    (hbase : parts.base = some base) :
    parts.text = none ∧ ∃ inherited, set.HasContent base inherited ∧
      parts.taken = inherited.fieldNames := by
  cases h with
  | embedded _ _ hinherited =>
      cases hbase
      exact ⟨rfl, _, hinherited, rfl⟩
  | direct | flattened | simple | anything | restriction => cases hbase

theorem text_iff (h : set.PartsOf id body parts) :
    parts.text.isSome ↔ ∃ derivation mixed, body = .complex (.simple derivation) mixed := by
  cases h with
  | flattened | simple => simp
  | direct | embedded | anything | restriction => simp

theorem base_iff (h : set.PartsOf id body parts) {base : TypeId} :
    parts.base = some base ↔ ∃ derivation mixed, body = .complex (.complex derivation) mixed ∧
      derivation.method = .extension ∧
      set.resolveTypeName derivation.base derivation.span = .ok (.complex base) := by
  cases h with
  | direct | flattened | simple => simp
  | embedded hmethod hbase => simp [hmethod, hbase]
  | anything hmethod hbase => simp [hbase]
  | restriction hmethod => simp [hmethod]

end PartsOf

namespace HasParts

theorem taken_of_text (h : set.HasParts id parts) :
    parts.text.isSome → Content.textFieldName ∈ parts.taken := by
  obtain ⟨_, _, hparts⟩ := h
  exact hparts.taken_of_text

theorem text_iff (h : set.HasParts id parts) : parts.text.isSome ↔ set.IsSimpleContent id := by
  obtain ⟨type, htype, hparts⟩ := h
  simp [IsSimpleContent, htype, hparts.text_iff]

theorem base_iff (h : set.HasParts id parts) {base : TypeId} :
    parts.base = some base ↔ set.Extends id base := by
  obtain ⟨type, htype, hparts⟩ := h
  simp [Extends, htype, hparts.base_iff]

end HasParts

variable {content : Content}

theorem HasContent.exists_fits (h : set.HasContent id content) :
    ∃ parts, set.HasParts id parts ∧ content.Fits parts := by
  obtain ⟨parts, hparts, rfl⟩ := Rules.exists_parts h
  exact ⟨parts, hparts, Content.fits_addAll parts⟩

/-! Chains of embedded bases. -/

/-- The content declares no name that can be seen on the other, and has all of those. -/
structure Above (content inner : Content) : Prop where
  visible : ∀ name ∈ inner.fieldNames, name ∈ content.fieldNames
  fresh : ∀ name ∈ inner.fieldNames, name ∉ content.declared

theorem HasContent.above_base (h : set.HasContent id content) {base : TypeId}
    (hbase : content.base = some base) :
    ∃ inherited, set.HasContent base inherited ∧ Above content inherited := by
  obtain ⟨parts, ⟨type, _, hparts⟩, hfits⟩ := h.exists_fits
  rw [hfits.base] at hbase
  obtain ⟨hnone, inherited, hinherited, htaken⟩ := hparts.inherited_of_base hbase
  refine ⟨inherited, hinherited, ?_, ?_⟩
  · intro name hname
    rw [hfits.fieldNames, htaken]
    exact .inl hname
  · intro name hname hdeclared
    rw [Content.mem_declared_iff, hfits.text, hnone] at hdeclared
    rcases hdeclared with ⟨hsome, _⟩ | hmember
    · cases hsome
    · exact hfits.not_taken hmember (htaken ▸ hname)

theorem HasContent.above_embedded {other : TypeId} (hchain : TransGen set.Embeds id other)
    (h : set.HasContent id content) :
    ∃ inner, set.HasContent other inner ∧ Above content inner := by
  induction hchain using TransGen.head_induction_on generalizing content with
  | single hembeds =>
      obtain ⟨found, hfound, hbase⟩ := hembeds
      cases hfound.unique h
      exact h.above_base hbase
  | head hembeds _ ih =>
      obtain ⟨found, hfound, hbase⟩ := hembeds
      cases hfound.unique h
      obtain ⟨inherited, hinherited, habove⟩ := h.above_base hbase
      obtain ⟨inner, hinner, hdeeper⟩ := ih hinherited
      refine ⟨inner, hinner, ?_, ?_⟩
      · intro name hname
        exact habove.visible name (hdeeper.visible name hname)
      · intro name hname
        exact habove.fresh name (hdeeper.visible name hname)

/-- The content of a type is the one that its definition lists, and nothing is declared at two
levels of it. -/
theorem effective_content (h : set.HasContent id content) :
    (∃ parts, (∀ other, set.HasParts id other ↔ other = parts) ∧ content.Fits parts) ∧
    (∀ base, content.base = some base ↔ set.Extends id base) ∧
    (content.text.isSome ↔ set.IsSimpleContent id) ∧
    content.declared.Nodup ∧
    ∀ base, TransGen set.Embeds id base →
      ∃ inner, set.HasContent base inner ∧ content.declared.Disjoint inner.declared := by
  obtain ⟨parts, hparts, hfits⟩ := h.exists_fits
  refine ⟨⟨parts, hparts.iff_eq, hfits⟩, ?_, ?_, hfits.nodup_declared hparts.taken_of_text, ?_⟩
  · intro base
    rw [hfits.base]
    exact hparts.base_iff
  · rw [hfits.text]
    exact hparts.text_iff
  · intro base hchain
    obtain ⟨inner, hinner, habove⟩ := h.above_embedded hchain
    obtain ⟨innerParts, hinnerParts, hinnerFits⟩ := hinner.exists_fits
    refine ⟨inner, hinner, ?_⟩
    intro name hname hmem
    have hvisible := hinnerFits.mem_fieldNames_of_declared hinnerParts.taken_of_text hmem
    exact habove.fresh name hvisible hname

end SchemaSet

/-! A caption with text and a language, and a title that extends it. -/

namespace Title

def span : Span := ⟨⟨0⟩, 0, 0⟩

def element (name : String) : ElementDecl :=
  ⟨.named name none, .once, none, [], span⟩

def attributeWith (name : String) (use : AttributeUse) : AttributeDecl :=
  ⟨.named name none, use, none, [], span⟩

def caption : Derivation where
  method := .extension
  base := ⟨some xsdNamespace, "string"⟩
  container := { attributes := [.attribute ⟨0⟩] }
  inlineSimple := none
  facets := {}
  span := span

def title : Derivation where
  method := .extension
  base := ⟨none, "caption"⟩
  container := {
    attributes := [.group ⟨⟨none, "marks"⟩, span⟩]
    particle := some (.model .sequence .once [.element ⟨0⟩, .element ⟨1⟩, .element ⟨2⟩]) }
  inlineSimple := none
  facets := {}
  span := span

def document : SchemaDocument where
  path := ⟨"titles.xsd"⟩
  document := ⟨"", ⟨⟨none, "schema"⟩, [], none, {}, 0, 0, []⟩⟩
  schema := {
    targetSpace := none
    symbols := {
      document := "titles.xsd"
      permissive := false
      entries := [((.type, "caption"), 0), ((.type, "title"), 1), ((.attributeGroup, "marks"), 0)] }
    directives := [] }

def set : SchemaSet where
  documents := #[document]
  roots := [⟨0⟩]
  model := {
    types := #[
      ⟨some "caption", none, none, [], span, .complex (.simple caption) false⟩,
      ⟨some "title", none, none, [], span, .complex (.complex title) false⟩]
    elements := #[element "text", element "rank", element "note"]
    attributes := #[attributeWith "lang" .optional, attributeWith "old" .prohibited,
      attributeWith "rank" .required]
    attributeGroups := #[
      ⟨"marks", none, [.attribute ⟨0⟩, .attribute ⟨1⟩, .attribute ⟨2⟩], span⟩] }

def lang : Member := ⟨"Lang", .declaredAttribute ⟨0⟩⟩

def rank : Member := ⟨"Rank", .declaredAttribute ⟨2⟩⟩

def note : Member := ⟨"Note", .declaredElement ⟨2⟩ {}⟩

def captionContent : Content where
  text := some ⟨.string, {}⟩
  members := [lang]
  fieldNames := ["Text", "Lang"]

def titleContent : Content where
  base := some ⟨0⟩
  members := [rank, note]
  fieldNames := ["Text", "Lang", "Rank", "Note"]

def titleParts : ContentParts where
  taken := ["Text", "Lang"]
  entries := [lang, rank, ⟨"Text", .declaredElement ⟨0⟩ {}⟩, ⟨"Rank", .declaredElement ⟨1⟩ {}⟩,
    note]
  base := some ⟨0⟩

theorem caption_hasContent : set.HasContent ⟨0⟩ captionContent := by
  apply Query.gives_iff.mpr
  cbv

theorem title_hasContent : set.HasContent ⟨1⟩ titleContent := by
  apply Query.gives_iff.mpr
  cbv

theorem title_embeds : set.Embeds ⟨1⟩ ⟨0⟩ :=
  ⟨titleContent, title_hasContent, rfl⟩

theorem title_ownMembers :
    Rules.ownMembers set set.answers title.container = .ok titleParts.entries := by
  cbv

theorem title_hasParts : set.HasParts ⟨1⟩ titleParts := by
  have hbase : set.resolveTypeName title.base title.span = .ok (.complex ⟨0⟩) := by cbv
  have hown := Rules.declares_of_ownMembers title_ownMembers
  exact ⟨_, rfl, .embedded rfl hbase caption_hasContent hown⟩

end Title

namespace SchemaSet

theorem effective_title : Title.set.HasContent ⟨1⟩ Title.titleContent ∧
    Title.titleContent.Fits Title.titleParts ∧ Title.set.Extends ⟨1⟩ ⟨0⟩ ∧
    TransGen Title.set.Embeds ⟨1⟩ ⟨0⟩ ∧
    Title.titleContent.declared.Disjoint Title.captionContent.declared ∧
    Title.captionContent.declared = ["Text", "Lang"] ∧
    Title.titleContent.declared = ["Rank", "Note"] := by
  obtain ⟨⟨parts, honly, hfits⟩, hbase, _, _, hlevels⟩ := effective_content Title.title_hasContent
  have hsame := (honly Title.titleParts).mp Title.title_hasParts
  have hchain : TransGen Title.set.Embeds ⟨1⟩ ⟨0⟩ := .single Title.title_embeds
  obtain ⟨inner, hinner, hdisjoint⟩ := hlevels ⟨0⟩ hchain
  cases hinner.unique Title.caption_hasContent
  exact ⟨Title.title_hasContent, hsame ▸ hfits, (hbase ⟨0⟩).mp rfl, hchain, hdisjoint, rfl, rfl⟩

end SchemaSet

end SchemaBinding
