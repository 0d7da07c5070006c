import SchemaBinding.Proofs.Content.Derived
import SchemaBinding.Proofs.Loading.Single

namespace SchemaBinding

namespace SchemaSet

def IsAttribute (set : SchemaSet) (member : Member) (name : String) : Prop :=
  ∃ id, member.source = .declaredAttribute id ∧ set.nameOf .attribute id = .ok name

def HasAttribute (set : SchemaSet) (members : List Member) (name : String) : Prop :=
  ∃ member ∈ members, set.IsAttribute member name

/-- The type itself lists a prohibited attribute of the name. -/
def Prohibits (set : SchemaSet) (id : TypeId) (declared : AttributeId) (name : String) : Prop :=
  ∃ container, set.HasContainer id container ∧ .attribute declared ∈ container.attributes ∧
    set.isProhibited declared ∧ set.nameOf .attribute declared = .ok name

/-- The attribute is the first of what the type declares itself that has the field name of the
attribute's name. -/
def LeadsOwn (set : SchemaSet) (id : TypeId) (declared : AttributeId) (name : String) : Prop :=
  set.nameOf .attribute declared = .ok name ∧ ∃ own, set.DeclaresOwn id own ∧
    Content.first? own (Identifier.exported name) =
      some ⟨Identifier.exported name, .declaredAttribute declared⟩

/-- If the member is for an attribute then for one that is not prohibited, and named after it. -/
def Admitted (set : SchemaSet) (member : Member) : Prop :=
  ∀ id, member.source = .declaredAttribute id → set.isProhibited id = false ∧
    ∃ name, set.nameOf .attribute id = .ok name ∧ member.name = Identifier.exported name

variable {set : SchemaSet} {id : TypeId} {content : Content} {member : Member} {name : String}

theorem admitted_of_declares {container : Container} {own : List Member}
    (h : set.Declares container own) (hmember : member ∈ own) : set.Admitted member := by
  obtain ⟨ids, attributes, trees, elements, _, hattributes, _, helements, rfl⟩ := h
  intro declared hsource
  rcases List.mem_append.mp hmember with hmem | hmem
  · obtain ⟨other, hother, name, hname, rfl⟩ := exists_rel_of_mem hattributes.flip hmem
    cases hsource
    have hallowed := (List.mem_filter.mp hother).2
    rw [Bool.not_eq_true'] at hallowed
    exact ⟨hallowed, name, hname, rfl⟩
  · obtain ⟨leaf, _, name, _, rfl⟩ := exists_rel_of_mem helements.flip hmem
    cases hsource

theorem HasContent.admitted (h : set.HasContent id content) :
    ∀ member ∈ content.members, set.Admitted member :=
  h.forall_members fun _ _ hown _ => admitted_of_declares hown

theorem DeclaresOwn.admitted {own : List Member} (h : set.DeclaresOwn id own) :
    ∀ member ∈ own, set.Admitted member := by
  obtain ⟨_, _, hown⟩ := h
  exact fun _ => admitted_of_declares hown

theorem Lends.admitted {lent : List Member} (h : set.Lends id lent) :
    ∀ member ∈ lent, set.Admitted member := by
  cases h with
  | base _ hinherited => exact hinherited.admitted
  | none => exact fun _ hmem => absurd hmem List.not_mem_nil

theorem IsAttribute.name_eq (h : set.IsAttribute member name) (hadmitted : set.Admitted member) :
    member.name = Identifier.exported name := by
  obtain ⟨declared, hsource, hname⟩ := h
  obtain ⟨_, other, hother, heq⟩ := hadmitted declared hsource
  cases eq_of_ok hname hother
  exact heq

theorem HasContent.nodup_names (h : set.HasContent id content) :
    (Content.names content.members).Nodup := by
  obtain ⟨parts, _, hfits⟩ := h.exists_fits
  rw [hfits.members]
  exact Content.nodup_names_kept parts.taken parts.entries

theorem Lends.nodup_names {lent : List Member} (h : set.Lends id lent) :
    (Content.names lent).Nodup := by
  cases h with
  | base _ hinherited => exact hinherited.nodup_names
  | none => exact List.nodup_nil

theorem Lends.hasAttribute_iff {lent : List Member} (h : set.Lends id lent) :
    set.HasAttribute lent name ↔ ∃ member,
      Content.first? lent (Identifier.exported name) = some member ∧
        set.IsAttribute member name := by
  constructor
  · rintro ⟨member, hmember, hattribute⟩
    rw [← hattribute.name_eq (h.admitted member hmember)]
    exact ⟨member, Content.first?_of_nodup h.nodup_names hmember, hattribute⟩
  · rintro ⟨member, hfirst, hattribute⟩
    exact ⟨member, Content.mem_of_first? hfirst, hattribute⟩

theorem DeclaresOwn.exists_leads_iff {own : List Member} (h : set.DeclaresOwn id own) :
    (∃ declared, set.LeadsOwn id declared name) ↔ ∃ member,
      Content.first? own (Identifier.exported name) = some member ∧
        set.IsAttribute member name := by
  constructor
  · rintro ⟨declared, hname, others, hothers, hfound⟩
    cases hothers.unique h
    exact ⟨_, hfound, declared, rfl, hname⟩
  · rintro ⟨member, hfound, hattribute⟩
    have hmember := hattribute.name_eq (h.admitted member (Content.mem_of_first? hfound))
    obtain ⟨declared, hsource, hname⟩ := hattribute
    obtain ⟨field, source⟩ := member
    cases hsource
    cases hmember
    exact ⟨declared, hname, own, h, hfound⟩

/-- An attribute shows on a type if its field name is not reserved and if it is taken over from a
base, or leads what the type declares itself where nothing is taken over under its field name. -/
theorem HasContent.hasAttribute_iff (h : set.HasContent id content) :
    ∃ lent, set.Lends id lent ∧ (set.HasAttribute content.members name ↔
      ¬ set.Reserves id (Identifier.exported name) ∧ (set.HasAttribute lent name ∨
        Identifier.exported name ∉ Content.names lent ∧
          ∃ declared, set.LeadsOwn id declared name)) := by
  obtain ⟨parts, hparts, hfits⟩ := h.exists_fits
  obtain ⟨lent, own, hlends, hown, hentries⟩ := hparts.exists_split
  have hkept : set.HasAttribute content.members name ↔
      ¬ set.Reserves id (Identifier.exported name) ∧ ∃ member,
        Content.first? parts.entries (Identifier.exported name) = some member ∧
          set.IsAttribute member name := by
    rw [← hparts.mem_taken_iff]
    constructor
    · rintro ⟨member, hmember, hattribute⟩
      have hname := hattribute.name_eq (h.admitted member hmember)
      rw [hfits.members, Content.mem_kept_iff, hname] at hmember
      exact ⟨hmember.1, member, hmember.2, hattribute⟩
    · rintro ⟨hfree, member, hfound, hattribute⟩
      have hname := Content.name_of_first? hfound
      refine ⟨member, ?_, hattribute⟩
      rw [hfits.members, Content.mem_kept_iff, hname]
      exact ⟨hfree, hfound⟩
  refine ⟨lent, hlends, ?_⟩
  rw [hkept, hentries, Content.first?_append, hlends.hasAttribute_iff, hown.exists_leads_iff,
    ← Content.first?_eq_none_iff]
  cases Content.first? lent (Identifier.exported name) <;> simp

/-- A prohibited declaration gives no member, but it takes no other attribute of its name away: not
one that simple content takes over, and not one that the type declares besides. -/
theorem prohibited_attributes {declared : AttributeId} (h : set.HasContent id content)
    (hprohibits : set.Prohibits id declared name) :
    (∀ member ∈ content.members, member.source ≠ .declaredAttribute declared) ∧
    ∃ lent, set.Lends id lent ∧ (set.HasAttribute content.members name ↔
      ¬ set.Reserves id (Identifier.exported name) ∧ (set.HasAttribute lent name ∨
        Identifier.exported name ∉ Content.names lent ∧
          ∃ other, other ≠ declared ∧ set.LeadsOwn id other name)) := by
  obtain ⟨_, _, _, hprohibited, _⟩ := hprohibits
  obtain ⟨lent, hlends, hiff⟩ := h.hasAttribute_iff
  refine ⟨?_, lent, hlends, hiff.trans ?_⟩
  · intro member hmember hsource
    have hallowed := (h.admitted member hmember declared hsource).1
    rw [hprohibited] at hallowed
    cases hallowed
  · have hother : ∀ other, set.LeadsOwn id other name → other ≠ declared := by
      rintro _ ⟨_, own, hown, hfound⟩ rfl
      have hallowed := (hown.admitted _ (Content.mem_of_first? hfound) _ rfl).1
      rw [hprohibited] at hallowed
      cases hallowed
    have hleads : (∃ other, set.LeadsOwn id other name) ↔
        ∃ other, other ≠ declared ∧ set.LeadsOwn id other name :=
      exists_congr fun other => (and_iff_right_of_imp (hother other)).symm
    rw [hleads]

end SchemaSet

/-! A price with a note, and a bare price that is simple content over it and prohibits the note. -/

namespace Prices

def text : String :=
  "<xs:schema xmlns:xs=\"http://www.w3.org/2001/XMLSchema\"><xs:complexType name=\"Price\">" ++
    "<xs:simpleContent><xs:extension base=\"xs:decimal\">" ++
    "<xs:attribute name=\"currency\" type=\"xs:string\"/>" ++
    "<xs:attribute name=\"note\" type=\"xs:string\"/></xs:extension></xs:simpleContent>" ++
    "</xs:complexType><xs:complexType name=\"BarePrice\"><xs:simpleContent>" ++
    "<xs:restriction base=\"Price\"><xs:simpleType><xs:restriction base=\"xs:decimal\"/>" ++
    "</xs:simpleType><xs:attribute name=\"note\" use=\"prohibited\"/></xs:restriction>" ++
    "</xs:simpleContent></xs:complexType></xs:schema>"

def tree : FileTree :=
  ⟨[(⟨.above 0, ["a.xsd"]⟩, .file (.text text))]⟩

def root : Path := ⟨"a.xsd"⟩

def price : TypeId := ⟨0⟩

def bare : TypeId := ⟨2⟩

def prohibited : AttributeId := ⟨2⟩

def priceContent : Content where
  text := some ⟨.decimal, {}⟩
  members := [⟨"Currency", .declaredAttribute ⟨0⟩⟩, ⟨"Note", .declaredAttribute ⟨1⟩⟩]
  fieldNames := ["Text", "Currency", "Note"]

def Known (set : SchemaSet) : Prop :=
  set.nearFlattened? bare = some price ∧
    (set.answers.content price).toOption = some priceContent ∧
    set.ownMembers? bare = some [] ∧ (set.answers.scalar bare).toOption = some .decimal ∧
    (set.container? bare).map Container.attributes = some [.attribute prohibited] ∧
    set.isProhibited prohibited = true ∧
    ∀ id ∈ [⟨1⟩, prohibited], (set.nameOf .attribute id).toOption = some "note"

instance : DecidablePred Known := fun _ =>
  inferInstanceAs (Decidable (_ ∧ _))

theorem exists_load : ∃ set, SchemaSet.load tree [root] .strict false = .ok set ∧ Known set := by
  refine SchemaSet.exists_load_single ?_ ?_ ?_ <;> decide +kernel

namespace Known

variable {set : SchemaSet} (h : Known set)

include h

theorem prohibits : set.Prohibits bare prohibited "note" := by
  obtain ⟨_, _, _, _, hlisted, hprohibited, hnames⟩ := h
  obtain ⟨container, hcontainer, hlisted⟩ := Option.map_eq_some_iff.mp hlisted
  refine ⟨container, SchemaSet.hasContainer_of_container? hcontainer, ?_, hprohibited,
    eq_ok_of_toOption (hnames prohibited (by decide))⟩
  rw [hlisted]
  exact List.mem_cons_self

theorem exists_bare_hasContent : ∃ facets, set.HasContent bare
    { priceContent with text := some ⟨.decimal, facets⟩ } := by
  obtain ⟨hbase, hprice, hown, hscalar, _⟩ := h
  have hinherited : set.HasContent price priceContent :=
    Query.gives_iff.mpr (eq_ok_of_toOption hprice)
  have hscalar : set.HasScalar bare .decimal := Query.gives_iff.mpr (eq_ok_of_toOption hscalar)
  exact (SchemaSet.flattens_of_nearFlattened? hbase).exists_hasContent hinherited hscalar hown

theorem hasAttribute : set.HasAttribute priceContent.members "note" := by
  obtain ⟨_, _, _, _, _, _, hnames⟩ := h
  have hname : set.nameOf .attribute ⟨1⟩ = .ok "note" :=
    eq_ok_of_toOption (hnames ⟨1⟩ (by decide))
  exact ⟨⟨"Note", .declaredAttribute ⟨1⟩⟩, by decide, ⟨1⟩, rfl, hname⟩

end Known

end Prices

open Prices

/-- A bare price prohibits the note and has it. -/
theorem SchemaSet.prohibited_attribute_left :
    ∃ set content, load tree [root] .strict false = .ok set ∧ set.HasContent bare content ∧
      set.Prohibits bare prohibited "note" ∧ set.HasAttribute content.members "note" := by
  obtain ⟨set, hload, hknown⟩ := exists_load
  obtain ⟨facets, hcontent⟩ := hknown.exists_bare_hasContent
  exact ⟨set, _, hload, hcontent, hknown.prohibits, hknown.hasAttribute⟩

theorem SchemaSet.prohibited_attributes_note :
    ∃ set content lent, load tree [root] .strict false = .ok set ∧ set.HasContent bare content ∧
      set.Prohibits bare prohibited "note" ∧
      (∀ member ∈ content.members, member.source ≠ .declaredAttribute prohibited) ∧
      set.Lends bare lent ∧ ¬ set.Reserves bare (Identifier.exported "note") := by
  obtain ⟨set, hload, hknown⟩ := exists_load
  obtain ⟨facets, hcontent⟩ := hknown.exists_bare_hasContent
  obtain ⟨hnone, lent, hlends, hiff⟩ := prohibited_attributes hcontent hknown.prohibits
  have hfree := (hiff.mp hknown.hasAttribute).1
  exact ⟨set, _, lent, hload, hcontent, hknown.prohibits, hnone, hlends, hfree⟩

end SchemaBinding
