import SchemaBinding.Proofs.Content.Derived
import SchemaBinding.Proofs.Loading.Single

namespace SchemaBinding

open Relation (TransGen)

namespace SchemaSet

/-- The name is declared at a level that the content of a type embeds. -/
def DeclaredBelow (set : SchemaSet) (id : TypeId) (name : String) : Prop :=
  ∃ other inner, TransGen set.Embeds id other ∧ set.HasContent other inner ∧ name ∈ inner.declared

/-- The name is that of the text or of a member, or can be seen on the embedded base. -/
def Carries (set : SchemaSet) (content : Content) (name : String) : Prop :=
  name ∈ content.declared ∨
    ∃ base inner, content.base = some base ∧ set.HasContent base inner ∧ name ∈ inner.fieldNames

variable {set : SchemaSet} {id base : TypeId} {parts : ContentParts} {content inherited : Content}
  {name : String}

theorem HasContent.mem_fieldNames_iff_carries (h : set.HasContent id content) :
    name ∈ content.fieldNames ↔ set.Carries content name := by
  obtain ⟨parts, hparts, hfits⟩ := h.exists_fits
  constructor
  · intro hname
    by_cases htaken : name ∈ parts.taken
    · rcases hparts.mem_taken_iff.mp htaken with
        ⟨hsimple, heq⟩ | ⟨base, inner, hextends, hinner⟩
      · have htext : content.text.isSome := hfits.text ▸ hparts.text_iff.mpr hsimple
        exact .inl (Content.mem_declared_iff.mpr (.inl ⟨htext, heq⟩))
      · exact .inr ⟨base, inner, hfits.base.trans (hparts.base_iff.mpr hextends), hinner⟩
    · have hentry := ((hfits.fieldNames name).mp hname).resolve_left htaken
      apply Or.inl
      rw [Content.mem_declared_iff, hfits.members, Content.mem_names_kept_iff]
      exact .inr ⟨htaken, hentry⟩
  · rintro (hdeclared | ⟨base, inner, hbase, hinner, hname⟩)
    · exact hfits.mem_fieldNames_of_declared hparts.taken_of_text hdeclared
    · obtain ⟨found, hfound, habove⟩ := h.above_base hbase
      cases hfound.unique hinner
      exact habove.visible name hname

theorem HasContent.extends_of_base (h : set.HasContent id content)
    (hbase : content.base = some base) : set.Extends id base := by
  obtain ⟨parts, hparts, hfits⟩ := h.exists_fits
  exact hparts.base_iff.mp (hfits.base.symm.trans hbase)

theorem HasContent.fieldNames_of_declaredBelow (h : set.HasContent id content)
    (hbelow : set.DeclaredBelow id name) : name ∈ content.fieldNames ∧ name ∉ content.declared := by
  obtain ⟨other, inner, hchain, hinner, hname⟩ := hbelow
  obtain ⟨found, hfound, habove⟩ := h.above_embedded hchain
  cases hfound.unique hinner
  have hvisible : name ∈ inner.fieldNames := hinner.mem_fieldNames_iff_carries.mpr (.inl hname)
  exact ⟨habove.visible name hvisible, habove.fresh name hvisible⟩

theorem HasContent.declared_or_below (h : set.HasContent id content)
    (hname : name ∈ content.fieldNames) : name ∈ content.declared ∨ set.DeclaredBelow id name := by
  have hanswer := Query.gives_iff.mp h
  -- by induction on the contents needed: what is not declared here can be seen on the base
  revert hname
  apply Rule.answer_induction (motive := fun id content => name ∈ content.fieldNames →
    name ∈ content.declared ∨ set.DeclaredBelow id name) _ hanswer
  intro id content happly hneeded hname
  have hcontent : set.HasContent id content := Query.gives_iff.mpr (Rule.answer_of_apply happly)
  rcases hcontent.mem_fieldNames_iff_carries.mp hname with
    hhere | ⟨base, inner, hbase, hinner, hmem⟩
  · exact .inl hhere
  · have hembeds : set.Embeds id base := ⟨content, hcontent, hbase⟩
    have hneeds := (hcontent.extends_of_base hbase).needs
    apply Or.inr
    rcases hneeded base inner hneeds (Query.gives_iff.mp hinner) hmem with hdeclared | hbelow
    · exact ⟨base, inner, .single hembeds, hinner, hdeclared⟩
    · obtain ⟨other, lowest, hchain, hlowest, hdeclared⟩ := hbelow
      exact ⟨other, lowest, .head hembeds hchain, hlowest, hdeclared⟩

theorem Extends.exists_above (h : set.Extends id base) (hcontent : set.HasContent id content) :
    ∃ inherited, set.HasContent base inherited ∧ Above content inherited := by
  obtain ⟨parts, hparts, hfits⟩ := hcontent.exists_fits
  exact hcontent.above_base (hfits.base.trans (hparts.base_iff.mpr h))

theorem Flattens.mem_fieldNames_iff (h : set.Flattens id base)
    (hcontent : set.HasContent id content) (hinherited : set.HasContent base inherited)
    {own : List Member} (hown : set.DeclaresOwn id own) :
    name ∈ content.fieldNames ↔ name = Content.textFieldName ∨
      name ∈ Content.names inherited.members ∨ name ∈ Content.names own := by
  obtain ⟨parts, hparts, hfits⟩ := hcontent.exists_fits
  obtain ⟨lent, others, hlends, hothers, hentries⟩ := hparts.exists_split
  obtain ⟨found, hfound, rfl⟩ := h.exists_lent hlends
  cases hfound.unique hinherited
  cases hothers.unique hown
  rw [hfits.fieldNames, hparts.mem_taken_iff, h.reserves_iff, hentries, Content.names_append,
    List.mem_append]

/-- Simple content loses the names that its base embeds, but for those that it declares itself. -/
theorem Flattens.loses_iff (h : set.Flattens id base) (hcontent : set.HasContent id content)
    (hinherited : set.HasContent base inherited) {own : List Member}
    (hown : set.DeclaresOwn id own) (hname : name ∈ inherited.fieldNames) :
    name ∉ content.fieldNames ↔ set.DeclaredBelow base name ∧ name ≠ Content.textFieldName ∧
      name ∉ Content.names own := by
  rw [h.mem_fieldNames_iff hcontent hinherited hown, not_or, not_or]
  constructor
  · rintro ⟨htext, hmembers, hfree⟩
    refine ⟨(hinherited.declared_or_below hname).resolve_left ?_, htext, hfree⟩
    rw [Content.mem_declared_iff]
    rintro (⟨_, heq⟩ | hmember)
    · exact htext heq
    · exact hmembers hmember
  · rintro ⟨hbelow, htext, hfree⟩
    refine ⟨htext, ?_, hfree⟩
    intro hmember
    apply (hinherited.fieldNames_of_declaredBelow hbelow).2
    exact Content.mem_declared_iff.mpr (.inr hmember)

/-- What a derived type sees it carries, and what can be seen on its base it sees, unless it has
simple content over a base that embeds the declaration of a name it does not declare itself. -/
theorem inherited_names_kept (hderived : set.Flattens id base ∨ set.Extends id base)
    (hcontent : set.HasContent id content) :
    ∃ inherited own, set.HasContent base inherited ∧ set.DeclaresOwn id own ∧
      (∀ name ∈ content.fieldNames, set.Carries content name) ∧
      ∀ name ∈ inherited.fieldNames, name ∉ content.fieldNames ↔
        set.Flattens id base ∧ set.DeclaredBelow base name ∧ name ≠ Content.textFieldName ∧
          name ∉ Content.names own := by
  obtain ⟨parts, hparts, _⟩ := hcontent.exists_fits
  obtain ⟨lent, own, hlends, hown, _⟩ := hparts.exists_split
  have hcarried : ∀ name ∈ content.fieldNames, set.Carries content name :=
    fun _ => hcontent.mem_fieldNames_iff_carries.mp
  rcases hderived with hflattens | hextends
  · obtain ⟨inherited, hinherited, _⟩ := hflattens.exists_lent hlends
    refine ⟨inherited, own, hinherited, hown, hcarried, ?_⟩
    intro name hname
    rw [hflattens.loses_iff hcontent hinherited hown hname, and_iff_right hflattens]
  · obtain ⟨inherited, hinherited, habove⟩ := hextends.exists_above hcontent
    refine ⟨inherited, own, hinherited, hown, hcarried, ?_⟩
    intro name hname
    constructor
    · intro hlost
      exact absurd (habove.visible name hname) hlost
    · rintro ⟨hflattens, _⟩
      exact absurd hextends hflattens.not_extends

end SchemaSet

/-! A note extends an entity that has an identifier, and a plain note is simple content over it. -/

namespace Notes

def text : String :=
  "<xs:schema xmlns:xs=\"http://www.w3.org/2001/XMLSchema\">" ++
    "<xs:complexType name=\"Entity\" mixed=\"true\">" ++
    "<xs:attribute name=\"id\" type=\"xs:string\"/></xs:complexType>" ++
    "<xs:complexType name=\"Note\" mixed=\"true\"><xs:complexContent>" ++
    "<xs:extension base=\"Entity\"><xs:attribute name=\"lang\" type=\"xs:string\"/>" ++
    "</xs:extension></xs:complexContent></xs:complexType>" ++
    "<xs:complexType name=\"PlainNote\"><xs:simpleContent><xs:restriction base=\"Note\">" ++
    "<xs:simpleType><xs:restriction base=\"xs:string\"/></xs:simpleType>" ++
    "</xs:restriction></xs:simpleContent></xs:complexType></xs:schema>"

def tree : FileTree :=
  ⟨[(⟨.above 0, ["a.xsd"]⟩, .file (.text text))]⟩

def root : Path := ⟨"a.xsd"⟩

def entity : TypeId := ⟨0⟩

def note : TypeId := ⟨1⟩

def plain : TypeId := ⟨3⟩

def id : Member := ⟨"Id", .declaredAttribute ⟨0⟩⟩

def lang : Member := ⟨"Lang", .declaredAttribute ⟨1⟩⟩

def entityContent : Content where
  members := [id]
  fieldNames := ["Id"]

def Known (set : SchemaSet) : Prop :=
  set.nearExtended? note = some entity ∧ set.nearFlattened? plain = some note ∧
    (set.answers.content entity).toOption = some entityContent ∧
    set.ownMembers? note = some [lang] ∧ set.ownMembers? plain = some [] ∧
    (set.answers.scalar plain).toOption = some .string

instance : DecidablePred Known := fun _ =>
  inferInstanceAs (Decidable (_ ∧ _))

theorem exists_load : ∃ set, SchemaSet.load tree [root] .strict false = .ok set ∧ Known set := by
  refine SchemaSet.exists_load_single ?_ ?_ ?_ <;> decide +kernel

namespace Known

variable {set : SchemaSet} (h : Known set)

include h

theorem flattens : set.Flattens plain note :=
  SchemaSet.flattens_of_nearFlattened? h.2.1

theorem note_hasContent :
    set.HasContent note { base := entity, members := [lang], fieldNames := ["Id", "Lang"] } := by
  obtain ⟨hbase, _, hentity, hown, _⟩ := h
  have hinherited : set.HasContent entity entityContent :=
    Query.gives_iff.mpr (eq_ok_of_toOption hentity)
  exact (SchemaSet.extends_of_nearExtended? hbase).hasContent hinherited hown

theorem exists_plain_hasContent : ∃ facets, set.HasContent plain
    { text := some ⟨.string, facets⟩, members := [lang], fieldNames := ["Text", "Lang"] } := by
  have hinherited := note_hasContent h
  obtain ⟨_, hbase, _, _, hown, hscalar⟩ := h
  have hscalar : set.HasScalar plain .string := Query.gives_iff.mpr (eq_ok_of_toOption hscalar)
  exact (SchemaSet.flattens_of_nearFlattened? hbase).exists_hasContent hinherited hscalar hown

end Known

end Notes

open Notes

/-- What can be seen on a note is lost on a plain one. -/
theorem SchemaSet.inherited_name_lost :
    ∃ set inherited content, load tree [root] .strict false = .ok set ∧
      set.Flattens plain note ∧ set.HasContent note inherited ∧ set.HasContent plain content ∧
      "Id" ∈ inherited.fieldNames ∧ "Id" ∉ content.fieldNames := by
  obtain ⟨set, hload, hknown⟩ := exists_load
  obtain ⟨facets, hcontent⟩ := hknown.exists_plain_hasContent
  have hgone : "Id" ∉ ["Text", "Lang"] := by decide
  exact ⟨set, _, _, hload, hknown.flattens, hknown.note_hasContent, hcontent, by decide, hgone⟩

theorem SchemaSet.inherited_names_kept_note :
    ∃ set content inherited own, load tree [root] .strict false = .ok set ∧
      (set.Flattens plain note ∨ set.Extends plain note) ∧ set.HasContent plain content ∧
      set.HasContent note inherited ∧ set.DeclaresOwn plain own ∧
      (∀ name ∈ content.fieldNames, set.Carries content name) ∧
      set.DeclaredBelow note "Id" ∧ "Id" ∉ Content.names own := by
  obtain ⟨set, hload, hknown⟩ := exists_load
  obtain ⟨facets, hcontent⟩ := hknown.exists_plain_hasContent
  have hderived : set.Flattens plain note ∨ set.Extends plain note := .inl hknown.flattens
  obtain ⟨inherited, own, hinherited, hown, hcarried, hlost⟩ :=
    inherited_names_kept hderived hcontent
  cases hinherited.unique hknown.note_hasContent
  have hgone : "Id" ∉ ["Text", "Lang"] := by decide
  obtain ⟨_, hbelow, _, hfree⟩ := (hlost "Id" (by decide)).mp hgone
  exact ⟨set, _, _, own, hload, hderived, hcontent, hinherited, hown, hcarried, hbelow, hfree⟩

end SchemaBinding
