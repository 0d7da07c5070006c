import SchemaBinding.Emission.Walk

namespace SchemaBinding

/-- Options under which the same structs are written for the same types. -/
structure Options.Agree (options other : Options) : Prop where
  packageFor : options.packageFor = other.packageFor
  importPath : options.importPath = other.importPath
  recursive : options.recursive = other.recursive

namespace Options.Agree

variable {options other : Options} (h : options.Agree other)

include h

theorem package_eq (type : TypeDef) : type.package options = type.package other := by
  rw [TypeDef.package, h.packageFor, TypeDef.package]

theorem structKey_eq (type : TypeDef) : type.structKey options = type.structKey other := by
  rw [TypeDef.structKey, h.package_eq, TypeDef.structKey]

theorem goType_eq (type : TypeDef) (current : String) :
    type.goType options current = type.goType other current := by
  rw [TypeDef.goType, h.package_eq, TypeDef.goType]

variable (set : SchemaSet) {m : Type → Type} [Monad m] [MonadExceptOf Error m]
  (answers : Answers m)

theorem memberField_eq (package : String) (member : Member) :
    Field.memberField set options answers package member =
      Field.memberField set other answers package member := by
  have hvalue : Field.valueOf set options answers package =
      Field.valueOf set other answers package := by
    funext target
    cases target <;> simp only [Field.valueOf, h.goType_eq]
  simp only [Field.memberField, Field.elementField, Field.attributeField, hvalue]

theorem fieldsOf_eq (package : String) (members : List Member) :
    Works.fieldsOf set options answers package members =
      Works.fieldsOf set other answers package members := by
  induction members with
  | nil => rfl
  | cons member rest ih => rw [Works.fieldsOf, Works.fieldsOf, h.memberField_eq, ih]

theorem structFile_eq (id : TypeId) (type : TypeDef) :
    Works.structFile set options answers id type = Works.structFile set other answers id type := by
  have hbase : Works.baseType set options = Works.baseType (m := m) set other := by
    funext package base
    cases base <;> simp only [Works.baseType, h.goType_eq]
  have himports : Works.importsOf options = Works.importsOf other := by
    funext types
    rw [Works.importsOf, h.importPath, Works.importsOf]
  simp only [Works.structFile, h.package_eq, h.fieldsOf_eq, hbase, himports]

end Options.Agree

end SchemaBinding
