import SchemaBinding.Proofs.Struct.Field

namespace SchemaBinding

namespace Works

/-- The imports of a file are the packages that qualify its types, each once, and each from
where the options say. -/
structure ImportsFit (options : Options) (types : List GoType) (imports : Table String String) :
    Prop where
  nodup : imports.keys.Nodup
  mem_keys : ∀ package, package ∈ imports.keys ↔ ∃ type ∈ types, type.package = some package
  path : ∀ entry ∈ imports, entry.2 = options.importPath entry.1

theorem importsFit_put {options : Options} {types : List GoType}
    {imports : Table String String} (h : ImportsFit options types imports) {package : String}
    {type : GoType} (htype : type.package = some package) :
    ImportsFit options (types ++ [type]) (imports.put package (options.importPath package)) where
  nodup := Table.nodup_keys_put h.nodup package _
  mem_keys other := by
    rw [Table.mem_keys_put, h.mem_keys]
    constructor
    · rintro (⟨found, hfound, hpackage⟩ | rfl)
      · exact ⟨found, List.mem_append_left _ hfound, hpackage⟩
      · exact ⟨type, by simp, htype⟩
    · rintro ⟨found, hfound, hpackage⟩
      rcases List.mem_append.mp hfound with hmem | hmem
      · exact .inl ⟨found, hmem, hpackage⟩
      · rw [List.mem_singleton.mp hmem, htype] at hpackage
        exact .inr (Option.some.inj hpackage).symm
  path entry hentry := by
    rcases Table.mem_put hentry with hmem | rfl
    · exact h.path entry hmem
    · rfl

theorem importsFit_skip {options : Options} {types : List GoType}
    {imports : Table String String} (h : ImportsFit options types imports) {type : GoType}
    (htype : type.package = none) : ImportsFit options (types ++ [type]) imports where
  nodup := h.nodup
  mem_keys other := by
    rw [h.mem_keys]
    simp [htype]
  path := h.path

theorem importsFit_foldl {options : Options} {types : List GoType}
    {imports : Table String String} (h : ImportsFit options types imports)
    (more : List GoType) :
    ImportsFit options (types ++ more)
      ((more.filterMap GoType.package).foldl
        (fun imports package => imports.put package (options.importPath package)) imports) := by
  induction more generalizing types imports with
  | nil =>
      rw [List.append_nil]
      exact h
  | cons type rest ih =>
      rw [List.append_cons]
      cases hpackage : type.package with
      | none =>
          rw [List.filterMap_cons_none hpackage]
          exact ih (importsFit_skip h hpackage)
      | some package =>
          rw [List.filterMap_cons_some hpackage]
          exact ih (importsFit_put h hpackage)

theorem importsFit_importsOf (options : Options) (types : List GoType) :
    ImportsFit options types (importsOf options types) := by
  have hnone : ImportsFit options [] [] := {
    nodup := List.Pairwise.nil
    mem_keys := by simp [Table.keys]
    path := by simp }
  exact importsFit_foldl hnone types

end Works

/-- The complex types that a type's struct refers to: its base, and then those of its members. -/
def SchemaSet.successors (set : SchemaSet) (id : TypeId) : List TypeId :=
  match set.answers.content id with
  | .ok content =>
      content.base.toList ++ content.members.filterMap (Member.complexType? set.answers)
  | .error _ => []

def StructFile.types (file : StructFile) : List GoType :=
  file.base.toList ++ file.fields.map Field.type

/-- A file is that of a type, and refers to the given complex types and no others. -/
structure StructFile.Describes (set : SchemaSet) (options : Options) (id : TypeId)
    (type : TypeDef) (file : StructFile) (referenced : List TypeId) : Prop where
  package : file.package = type.package options
  name : file.name = type.structName
  stands : ∀ found ∈ file.types, ∃ next? : Option TypeId,
    found.Stands set options file.package next? ∧ ∀ next, next? = some next → next ∈ referenced
  base : ∀ base, file.base = some base →
    ∃ next ∈ referenced, base.Stands set options file.package (some next)
  imports : Works.ImportsFit options file.types file.imports
  successors : referenced = set.successors id
  defined : ∀ next ∈ referenced, ∃ definition, set.typeDef next = .ok definition

namespace Works

variable {set : SchemaSet} {options : Options}

theorem baseType_stands {package : String} {base? : Option TypeId} {type? : Option GoType}
    (h : baseType set options package base? = (.ok type? : Except Error (Option GoType))) :
    (type? = none ∧ base? = none) ∨
      ∃ type base, type? = some type ∧ base? = some base ∧
        type.Stands set options package (some base) := by
  cases base? with
  | none =>
      cases h
      exact .inl ⟨rfl, rfl⟩
  | some base =>
      simp only [baseType, given_eq, bind_eq_ok_iff] at h
      obtain ⟨definition, hdefinition, heq⟩ := h
      cases heq
      exact .inr ⟨_, base, rfl, rfl, definition, hdefinition, rfl⟩

theorem exists_of_baseType {package : String} {base? : Option TypeId} {type? : Option GoType}
    (h : baseType set options package base? = (.ok type? : Except Error (Option GoType)))
    {type : GoType} (htype : type? = some type) :
    ∃ base, base? = some base ∧ type.Stands set options package (some base) := by
  rcases baseType_stands h with ⟨hnone, _⟩ | ⟨found, base, hfound, hbase, hstand⟩
  · rw [hnone] at htype
    cases htype
  · rw [hfound] at htype
    cases htype
    exact ⟨base, hbase, hstand⟩

theorem defined_of_baseType {package : String} {base? : Option TypeId} {type? : Option GoType}
    (h : baseType set options package base? = (.ok type? : Except Error (Option GoType)))
    {base : TypeId} (hbase : base? = some base) :
    ∃ definition, set.typeDef base = .ok definition := by
  rcases baseType_stands h with ⟨_, hnone⟩ | ⟨type, found, _, hfound, definition, hdefinition, _⟩
  · rw [hnone] at hbase
    cases hbase
  · rw [hfound] at hbase
    cases hbase
    exact ⟨definition, hdefinition⟩

theorem structFile_describes {id : TypeId} {type : TypeDef} {file : StructFile}
    {referenced : List TypeId}
    (h : structFile set options set.answers id type = .ok (file, referenced)) :
    file.Describes set options id type referenced := by
  simp only [structFile, bind_eq_ok_iff] at h
  obtain ⟨content, hcontent, base, hbase, members, hmembers, heq⟩ := h
  obtain ⟨hreferenced, hstands⟩ := fieldsOf_stands hmembers
  cases heq
  have htext : (content.text.toList.map Field.ofText).filterMap Field.referenced = [] := by
    cases content.text <;> rfl
  constructor
  case package => rfl
  case name => rfl
  case stands =>
      intro found hfound
      rcases List.mem_append.mp hfound with hmem | hmem
      · obtain ⟨next, hnext, hstand⟩ := exists_of_baseType hbase (Option.mem_toList.mp hmem)
        refine ⟨some next, hstand, ?_⟩
        rintro _ ⟨⟩
        simp [hnext]
      · obtain ⟨field, hfield, rfl⟩ := List.mem_map.mp hmem
        rcases List.mem_append.mp hfield with htexts | hlater
        · obtain ⟨text, _, rfl⟩ := List.mem_map.mp htexts
          exact ⟨none, ⟨text.scalar, rfl⟩, by simp⟩
        · refine ⟨field.referenced, hstands field hlater, ?_⟩
          intro next hnext
          apply List.mem_append_right
          rw [List.filterMap_append]
          apply List.mem_append_right
          exact List.mem_filterMap.mpr ⟨field, hlater, hnext⟩
  case base =>
      intro found hfound
      obtain ⟨next, hnext, hstand⟩ := exists_of_baseType hbase hfound
      exact ⟨next, by simp [hnext], hstand⟩
  case imports => exact importsFit_importsOf options _
  case successors =>
      rw [SchemaSet.successors, hcontent, List.filterMap_append, htext, List.nil_append,
        hreferenced]
  case defined =>
      intro next hnext
      rcases List.mem_append.mp hnext with hmem | hmem
      · exact defined_of_baseType hbase (Option.mem_toList.mp hmem)
      · rw [List.filterMap_append, htext, List.nil_append] at hmem
        obtain ⟨field, hfield, hfound⟩ := List.mem_filterMap.mp hmem
        have hstand := hstands field hfield
        rw [hfound] at hstand
        obtain ⟨definition, hdefinition, _⟩ := hstand
        exact ⟨definition, hdefinition⟩

end Works

/-! Files from remembered answers. -/

section

variable (set : SchemaSet) (options : Options) {m : Type → Type} [Monad m]
  [MonadExceptOf Error m] {sim : Simulation m} {answers : Answers m}
  {plain : Answers (Except Error)}

namespace Field

theorem follows_valueOf (h : sim.Serves answers plain) (package : String)
    (target : TypeTarget) :
    sim.Follows (valueOf set options answers package target)
      (valueOf set options plain package target) := by
  cases target with
  | builtin type =>
      apply sim.sequenced
      · exact Rules.follows_scalarAt sim fun next _ => h.scalar next
      · intro scalar _
        exact sim.done _
  | simple id =>
      apply sim.sequenced
      · exact Rules.follows_scalarAt sim fun next _ => h.scalar next
      · intro scalar _
        exact sim.done _
  | complex id =>
      apply sim.follows_given_bind
      intro type _
      exact sim.done _

theorem follows_elementField (h : sim.Serves answers plain) (package : String) (id : ElementId)
    (context : ParticleContext) (name : String) :
    sim.Follows (elementField set options answers package id context name)
      (elementField set options plain package id context name) := by
  apply sim.follows_given_bind
  intro written _
  apply sim.sequenced (h.elementTarget id)
  intro target _
  apply sim.sequenced (h.elementType id)
  intro type _
  apply sim.sequenced (follows_valueOf set options h package type)
  intro value _
  exact sim.done _

theorem follows_attributeField (h : sim.Serves answers plain) (package : String)
    (id : AttributeId) (name : String) :
    sim.Follows (attributeField set options answers package id name)
      (attributeField set options plain package id name) := by
  apply sim.follows_given_bind
  intro written _
  apply sim.sequenced (h.attributeTarget id)
  intro target _
  apply sim.sequenced (h.attributeType id)
  intro type _
  cases htype : type.complex?.isSome with
  | true => exact sim.sequenced (sim.failed _) fun _ hvalue => nomatch hvalue
  | false =>
      apply sim.sequenced (follows_valueOf set options h package type)
      intro value _
      exact sim.done _

theorem follows_memberField (h : sim.Serves answers plain) (package : String)
    (member : Member) :
    sim.Follows (memberField set options answers package member)
      (memberField set options plain package member) := by
  unfold memberField
  split
  · exact follows_attributeField set options h package _ _
  · exact follows_elementField set options h package _ _ _

end Field

namespace Works

theorem follows_fieldsOf (h : sim.Serves answers plain) (package : String)
    (members : List Member) :
    sim.Follows (fieldsOf set options answers package members)
      (fieldsOf set options plain package members) := by
  induction members with
  | nil => exact sim.done []
  | cons member rest ih =>
      apply sim.sequenced (Field.follows_memberField set options h package member)
      intro field _
      exact sim.follows_map _ ih

theorem follows_baseType (sim : Simulation m) (package : String) (base? : Option TypeId) :
    sim.Follows (baseType set options package base?) (baseType set options package base?) := by
  cases base? with
  | none => exact sim.done none
  | some base =>
      apply sim.follows_given_bind
      intro type _
      exact sim.done _

theorem follows_structFile (h : sim.Serves answers plain) {id : TypeId} (type : TypeDef)
    (hcontent : sim.Follows (answers.content id) (plain.content id)) :
    sim.Follows (structFile set options answers id type)
      (structFile set options plain id type) := by
  apply sim.sequenced hcontent
  intro content _
  apply sim.sequenced (follows_baseType set options sim _ content.base)
  intro base _
  apply sim.sequenced (follows_fieldsOf set options h _ content.members)
  intro members _
  exact sim.done _

end Works

end

end SchemaBinding
