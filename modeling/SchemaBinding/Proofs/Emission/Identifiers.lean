import SchemaBinding.Proofs.Content.Derived
import SchemaBinding.Proofs.Emission.Visit
import SchemaBinding.Proofs.Loading.Single
import SchemaBinding.Proofs.Struct.Names

namespace SchemaBinding

/-- The identifiers of the fields. That of an embedded base is the name of its type, without the
package. -/
def StructFile.identifiers (file : StructFile) : List String :=
  file.base.toList.map GoType.name ++ file.fields.map Field.name

/-- A field that is declared at the type's own level has the name of the struct that the type
embeds. -/
def SchemaSet.RepeatsBase (set : SchemaSet) (id : TypeId) : Prop :=
  ∃ content base type, set.HasContent id content ∧ content.base = some base ∧
    set.typeDef base = .ok type ∧ type.structName ∈ content.declared

namespace Works

variable {set : SchemaSet} {options : Options} {id : TypeId} {type : TypeDef} {file : StructFile}
  {referenced : List TypeId}

theorem name_of_baseType {package : String} {base? : Option TypeId} {type? : Option GoType}
    (h : baseType set options package base? = (.ok type? : Except Error (Option GoType)))
    {name : String} : name ∈ type?.toList.map GoType.name ↔
      ∃ base type, base? = some base ∧ set.typeDef base = .ok type ∧ type.structName = name := by
  rcases baseType_stands h with ⟨rfl, rfl⟩ | ⟨_, base, rfl, rfl, type, htype, rfl⟩
  · simp
  · simp [htype, TypeDef.goType, eq_comm]

theorem exists_names_of_structFile
    (h : structFile set options set.answers id type = .ok (file, referenced)) :
    ∃ content, set.HasContent id content ∧ file.fields.map Field.name = content.declared ∧
      ∀ name, name ∈ file.base.toList.map GoType.name ↔
        ∃ base type, content.base = some base ∧ set.typeDef base = .ok type ∧
          type.structName = name := by
  simp only [structFile, bind_eq_ok_iff] at h
  obtain ⟨content, hcontent, base, hbase, members, hmembers, heq⟩ := h
  cases heq
  refine ⟨content, Query.gives_iff.mpr hcontent, ?_, fun name => name_of_baseType hbase⟩
  rw [List.map_append, names_of_fieldsOf hmembers, List.map_map]
  rfl

theorem exists_structFile {content : Content} {base? : Option GoType} {fields : List Field}
    (hcontent : set.HasContent id content)
    (hbase : baseType set options (type.package options) content.base =
      (.ok base? : Except Error (Option GoType)))
    (hfields : fieldsOf set options set.answers (type.package options) content.members =
      .ok fields) :
    ∃ made, structFile set options set.answers id type = .ok made ∧
      made.2 = content.base.toList ++ fields.filterMap Field.referenced := by
  have htext : (content.text.toList.map Field.ofText).filterMap Field.referenced = [] := by
    cases content.text <;> rfl
  refine ⟨_, bind_eq_ok_iff.mpr ⟨content, Query.gives_iff.mp hcontent, bind_eq_ok_iff.mpr
    ⟨base?, hbase, bind_eq_ok_iff.mpr ⟨fields, hfields, rfl⟩⟩⟩, ?_⟩
  rw [List.filterMap_append, htext, List.nil_append]

theorem nodup_names_of_structFile
    (h : structFile set options set.answers id type = .ok (file, referenced)) :
    (file.fields.map Field.name).Nodup := by
  obtain ⟨content, hcontent, hnames, _⟩ := exists_names_of_structFile h
  obtain ⟨parts, hparts, hfits⟩ := hcontent.exists_fits
  rw [hnames]
  exact hfits.nodup_declared hparts.taken_of_text

/-- At most the base can have the identifier of another field. -/
theorem nodup_identifiers_iff
    (h : structFile set options set.answers id type = .ok (file, referenced)) :
    file.identifiers.Nodup ↔ ¬ set.RepeatsBase id := by
  obtain ⟨content, hcontent, hnames, hbase⟩ := exists_names_of_structFile h
  have hfields := nodup_names_of_structFile h
  have hrepeats : set.RepeatsBase id ↔
      ∃ name ∈ file.base.toList.map GoType.name, name ∈ file.fields.map Field.name := by
    rw [hnames]
    constructor
    · rintro ⟨found, base, type, hfound, hsome, htype, hmem⟩
      cases hfound.unique hcontent
      exact ⟨_, (hbase _).mpr ⟨base, type, hsome, htype, rfl⟩, hmem⟩
    · rintro ⟨name, hname, hmem⟩
      obtain ⟨base, type, hsome, htype, rfl⟩ := (hbase name).mp hname
      exact ⟨content, base, type, hcontent, hsome, htype, hmem⟩
  have hone : (file.base.toList.map GoType.name).Nodup := by
    cases file.base <;> simp
  rw [StructFile.identifiers, List.nodup_append', and_iff_right hone, and_iff_right hfields,
    hrepeats]
  constructor
  · rintro hdisjoint ⟨name, hname, hmem⟩
    exact hdisjoint hname hmem
  · intro hnone name hname hmem
    exact hnone ⟨name, hname, hmem⟩

end Works

namespace Emission

variable {σ : Type} {set : SchemaSet} {options : Options} {sink : Sink σ} {id : TypeId}
  {emission after : Emission σ}

theorem exists_ran_emit {type : TypeDef} (hsettled : emission.works.memo.Settled set)
    (htype : set.typeDef id = .ok type) (hnew : type.structKey options ∉ emission.claims.keys)
    (h : emit set options sink id emission = .ok () after) :
    ∃ delivery deliveries, delivery.id = id ∧
      Ran set options sink emission after [id] (delivery :: deliveries) := by
  rw [emit, walk_new htype hnew] at h
  split at h
  case h_1 => cases h
  case h_2 referenced works hwrite =>
      obtain ⟨delivery, hid, hkey, rfl, hdelivered⟩ :=
        Works.delivered_of_writeStruct htype hsettled hwrite
      obtain ⟨deliveries, hran⟩ := ran_walk hdelivered.settled h
      exact ⟨delivery, deliveries, hid, Ran.step hdelivered hid htype hkey hnew hran⟩

theorem exists_ran_with_own (hsettled : emission.works.memo.Settled set)
    (h : emit set options sink id emission = .ok () after) :
    ∃ deliveries, Ran set options sink emission after [id] deliveries ∧
      ∀ type, set.typeDef id = .ok type → type.structKey options ∉ emission.claims.keys →
        id ∈ deliveries.map Delivery.id := by
  -- a type whose name is taken is passed over, so that nothing is to be shown of it
  by_cases hfree : ∃ type, set.typeDef id = .ok type ∧
      type.structKey options ∉ emission.claims.keys
  · obtain ⟨type, htype, hnew⟩ := hfree
    obtain ⟨delivery, deliveries, rfl, hran⟩ := exists_ran_emit hsettled htype hnew h
    exact ⟨delivery :: deliveries, hran, fun _ _ _ => List.mem_cons_self⟩
  · obtain ⟨deliveries, hran⟩ := ran_walk hsettled h
    exact ⟨deliveries, hran, fun type htype hnew => absurd ⟨type, htype, hnew⟩ hfree⟩

/-- In the structs that an emission writes, fields have names of their own, and identifiers of their
own exactly when none repeats that of the embedded base. The emitted type is among them if its
package and name are free. -/
theorem distinct_identifiers (hmemo : emission.works.memo.Reachable set)
    (h : emit set options sink id emission = .ok () after) :
    ∃ deliveries, Works.Delivered set options sink emission.works after.works deliveries ∧
      (∀ type, set.typeDef id = .ok type → type.structKey options ∉ emission.claims.keys →
        id ∈ deliveries.map Delivery.id) ∧
      ∀ delivery ∈ deliveries, (delivery.file.fields.map Field.name).Nodup ∧
        (delivery.file.identifiers.Nodup ↔ ¬ set.RepeatsBase delivery.id) := by
  obtain ⟨deliveries, hran, hown⟩ := exists_ran_with_own hmemo.settled h
  refine ⟨deliveries, hran.delivered, hown, ?_⟩
  intro delivery hdelivery
  obtain ⟨type, _, _, hfile⟩ := hran.delivered.fits delivery hdelivery
  exact ⟨Works.nodup_names_of_structFile hfile, Works.nodup_identifiers_iff hfile⟩

end Emission

/-! A bundle that extends an item, and has a further element with the name of an item. -/

namespace Bundles

open Emission

def text : String :=
  "<xs:schema xmlns:xs=\"http://www.w3.org/2001/XMLSchema\" targetNamespace=\"urn:shop\" " ++
    "xmlns=\"urn:shop\"><xs:complexType name=\"Item\">" ++
    "<xs:attribute name=\"sku\" type=\"xs:string\"/></xs:complexType>" ++
    "<xs:complexType name=\"Bundle\"><xs:complexContent><xs:extension base=\"Item\">" ++
    "<xs:sequence><xs:element name=\"item\" type=\"xs:string\"/></xs:sequence>" ++
    "</xs:extension></xs:complexContent></xs:complexType></xs:schema>"

def tree : FileTree :=
  ⟨[(⟨.above 0, ["a.xsd"]⟩, .file (.text text))]⟩

def root : Path := ⟨"a.xsd"⟩

def options : Options := { roots := [root], limits := .strict }

def start : Emission (List Sink.GeneratedFile) := { works := { sink := [] } }

def item : TypeId := ⟨0⟩

def bundle : TypeId := ⟨1⟩

def itemContent : Content where
  members := [⟨"Sku", .declaredAttribute ⟨0⟩⟩]
  fieldNames := ["Sku"]

def bundleContent : Content where
  base := item
  members := [⟨"Item", .declaredElement ⟨0⟩ {}⟩]
  fieldNames := ["Sku", "Item"]

def keyOf? (set : SchemaSet) (id : TypeId) : Option StructKey :=
  (set.typeDef id).toOption.map fun type => type.structKey options

def referencedBy? (set : SchemaSet) (members : List Member) : Option (List TypeId) :=
  (Works.fieldsOf set options set.answers "shop" members).toOption.map
    (List.filterMap Field.referenced)

def Known (set : SchemaSet) : Prop :=
  set.nearExtended? bundle = some item ∧
    (set.answers.content item).toOption = some itemContent ∧
    set.ownMembers? bundle = some bundleContent.members ∧
    keyOf? set item = some ("shop", "Item") ∧ keyOf? set bundle = some ("shop", "Bundle") ∧
    referencedBy? set itemContent.members = some [] ∧
    referencedBy? set bundleContent.members = some []

instance : DecidablePred Known := fun _ =>
  inferInstanceAs (Decidable (_ ∧ _))

theorem exists_load : ∃ set, SchemaSet.load tree [root] .strict false = .ok set ∧ Known set := by
  refine SchemaSet.exists_load_single ?_ ?_ ?_ <;> decide +kernel

theorem exists_type {set : SchemaSet} {id : TypeId} {key : StructKey}
    (h : keyOf? set id = some key) :
    ∃ type, set.typeDef id = .ok type ∧ type.structKey options = key := by
  obtain ⟨type, htype, hkey⟩ := Option.map_eq_some_iff.mp h
  exact ⟨type, eq_ok_of_toOption htype, hkey⟩

theorem exists_file {set : SchemaSet} {id : TypeId} {name : String} {content : Content}
    (hkey : keyOf? set id = some ("shop", name)) (hcontent : set.HasContent id content)
    (hbase : ∃ base?, Works.baseType set options "shop" content.base =
      (.ok base? : Except Error (Option GoType)))
    (hfields : referencedBy? set content.members = some []) :
    (∃ type made, set.typeDef id = .ok type ∧
      Works.structFile set options set.answers id type = .ok made) ∧
    set.successors id = content.base.toList := by
  obtain ⟨type, htype, hkey⟩ := exists_type hkey
  obtain ⟨base?, hbase⟩ := hbase
  obtain ⟨fields, hfields, hnone⟩ := Option.map_eq_some_iff.mp hfields
  have hpackage : type.package options = "shop" := congrArg Prod.fst hkey
  rw [← hpackage] at hbase hfields
  obtain ⟨⟨file, referenced⟩, hmade, hreferenced⟩ :=
    Works.exists_structFile hcontent hbase (eq_ok_of_toOption hfields)
  rw [hnone, List.append_nil] at hreferenced
  have hsuccessors := (Works.structFile_describes hmade).successors
  exact ⟨⟨type, _, htype, hmade⟩, hsuccessors.symm.trans hreferenced⟩

namespace Known

variable {set : SchemaSet} (h : Known set)

include h

theorem item_hasContent : set.HasContent item itemContent :=
  Query.gives_iff.mpr (eq_ok_of_toOption h.2.1)

theorem bundle_hasContent : set.HasContent bundle bundleContent := by
  have hinherited := item_hasContent h
  obtain ⟨hbase, _, hown, _⟩ := h
  exact (SchemaSet.extends_of_nearExtended? hbase).hasContent hinherited hown

theorem exists_item : ∃ type, set.typeDef item = .ok type ∧
    type.structKey options = ("shop", "Item") :=
  exists_type h.2.2.2.1

theorem exists_bundle : ∃ type, set.typeDef bundle = .ok type ∧
    type.structKey options = ("shop", "Bundle") :=
  exists_type h.2.2.2.2.1

theorem writable : Writable set options fun id => id = item ∨ id = bundle := by
  obtain ⟨type, htype, _⟩ := exists_item h
  have hbase : Works.baseType set options "shop" (some item) =
      (.ok (some (type.goType options "shop")) : Except Error (Option GoType)) :=
    bind_eq_ok_iff.mpr ⟨type, (given_eq _).trans htype, rfl⟩
  have hcontent := item_hasContent h
  have hcontent' := bundle_hasContent h
  obtain ⟨_, _, _, hkey, hkey', hfields, hfields'⟩ := h
  obtain ⟨hitem, hnone⟩ := exists_file hkey hcontent ⟨none, rfl⟩ hfields
  obtain ⟨hbundle, hone⟩ := exists_file hkey' hcontent' ⟨_, hbase⟩ hfields'
  constructor
  · rintro id (rfl | rfl)
    · exact hitem
    · exact hbundle
  · rintro id next (rfl | rfl) hnext
    · rw [SchemaSet.Refers, hnone] at hnext
      cases hnext
    · rw [SchemaSet.Refers, hone] at hnext
      exact .inl (List.mem_singleton.mp hnext)

theorem exists_emit : ∃ after, emit set options Sink.listing bundle start = .ok () after := by
  apply exists_walk Sink.accepts_listing (writable h) _ (Memo.settled_empty set)
  intro id hid
  exact .inr (List.mem_singleton.mp hid)

theorem repeatsBase : set.RepeatsBase bundle := by
  obtain ⟨type, htype, hkey⟩ := exists_item h
  have hname : type.structName = "Item" := congrArg Prod.snd hkey
  refine ⟨bundleContent, item, type, bundle_hasContent h, rfl, htype, ?_⟩
  rw [hname]
  decide

end Known

end Bundles

open Bundles

/-- The struct of a bundle embeds that of an item, and has another field with its name. -/
theorem Emission.identifier_repeated :
    ∃ set after deliveries, SchemaSet.load tree [root] .strict false = .ok set ∧
      options.validate = .ok () ∧ emit set options Sink.listing bundle start = .ok () after ∧
      Works.Delivered set options Sink.listing start.works after.works deliveries ∧
      ∃ delivery ∈ deliveries, delivery.id = bundle ∧ ¬ delivery.file.identifiers.Nodup := by
  obtain ⟨set, hload, hknown⟩ := exists_load
  obtain ⟨after, hafter⟩ := hknown.exists_emit
  obtain ⟨type, htype, _⟩ := hknown.exists_bundle
  obtain ⟨deliveries, hran, hown⟩ := exists_ran_with_own (Memo.settled_empty set) hafter
  obtain ⟨delivery, hdelivery, hid⟩ := List.mem_map.mp (hown type htype List.not_mem_nil)
  obtain ⟨_, _, _, hfile⟩ := hran.delivered.fits delivery hdelivery
  refine ⟨set, after, deliveries, hload, by decide +kernel, hafter, hran.delivered, delivery,
    hdelivery, hid, ?_⟩
  rw [Works.nodup_identifiers_iff hfile, hid, not_not]
  exact hknown.repeatsBase

theorem Emission.distinct_identifiers_bundle :
    ∃ set after deliveries, SchemaSet.load tree [root] .strict false = .ok set ∧
      emit set options Sink.listing bundle start = .ok () after ∧
      Works.Delivered set options Sink.listing start.works after.works deliveries ∧
      bundle ∈ deliveries.map Delivery.id ∧
      ∀ delivery ∈ deliveries, (delivery.file.fields.map Field.name).Nodup ∧
        (delivery.file.identifiers.Nodup ↔ ¬ set.RepeatsBase delivery.id) := by
  obtain ⟨set, hload, hknown⟩ := exists_load
  obtain ⟨after, hafter⟩ := hknown.exists_emit
  obtain ⟨type, htype, _⟩ := hknown.exists_bundle
  have hmemo : start.works.memo.Reachable set := .empty
  obtain ⟨deliveries, hdelivered, hown, hdistinct⟩ := distinct_identifiers hmemo hafter
  exact ⟨set, after, deliveries, hload, hafter, hdelivered, hown type htype List.not_mem_nil,
    hdistinct⟩

end SchemaBinding
