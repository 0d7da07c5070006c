import SchemaBinding.Emission.Struct
import SchemaBinding.Proofs.Resolution.Rules

namespace SchemaBinding

namespace GoType

/-- A type of the language, which no file declares. -/
def IsBuiltin (type : GoType) : Prop :=
  ∃ scalar : Scalar, type = builtin scalar.goType

def key (type : GoType) (current : String) : String × String :=
  (type.package.getD current, type.name)

/-- A type in a file of a package stands for a complex type, or else is built-in. -/
def Stands (set : SchemaSet) (options : Options) (current : String) (type : GoType) :
    Option TypeId → Prop
  | none => type.IsBuiltin
  | some id => ∃ definition, set.typeDef id = .ok definition ∧
      type = definition.goType options current

variable {set : SchemaSet} {options : Options} {current : String} {type : GoType}

theorem package_of_isBuiltin (h : type.IsBuiltin) : type.package = none := by
  obtain ⟨scalar, rfl⟩ := h
  rfl

theorem key_goType (definition : TypeDef) (options : Options) (current : String) :
    (definition.goType options current).key current =
      (definition.package options, definition.structName) := by
  simp only [TypeDef.goType, key]
  split
  case isTrue h => rw [h, Option.getD_none]
  case isFalse h => rw [Option.getD_some]

theorem Stands.package_ne {id? : Option TypeId} (h : type.Stands set options current id?) :
    type.package ≠ some current := by
  cases id? with
  | none =>
      rw [package_of_isBuiltin h]
      exact Option.some_ne_none current |>.symm
  | some id =>
      obtain ⟨definition, _, rfl⟩ := h
      simp only [TypeDef.goType]
      split
      case isTrue => exact Option.some_ne_none current |>.symm
      case isFalse hne =>
          intro heq
          exact hne (Option.some.inj heq)

end GoType

/-- The complex type that a member holds. An attribute holds none. -/
def Member.complexType? (answers : Answers (Except Error)) (member : Member) : Option TypeId :=
  match member.source with
  | .declaredAttribute _ => none
  | .declaredElement id _ =>
      match answers.elementType id with
      | .ok target => target.complex?
      | .error _ => none

namespace Field

variable {set : SchemaSet} {options : Options} {answers : Answers (Except Error)}
  {package : String}

theorem valueOf_stands {target : TypeTarget} {value : Value}
    (h : valueOf set options answers package target = .ok value) :
    value.referenced = target.complex? ∧
      value.type.Stands set options package value.referenced := by
  cases target with
  | builtin type =>
      simp only [valueOf, bind_eq_ok_iff] at h
      obtain ⟨scalar, _, heq⟩ := h
      cases heq
      exact ⟨rfl, scalar, rfl⟩
  | simple id =>
      simp only [valueOf, bind_eq_ok_iff] at h
      obtain ⟨scalar, _, heq⟩ := h
      cases heq
      exact ⟨rfl, scalar, rfl⟩
  | complex id =>
      simp only [valueOf, given_eq, bind_eq_ok_iff] at h
      obtain ⟨definition, hdefinition, heq⟩ := h
      cases heq
      exact ⟨rfl, definition, hdefinition, rfl⟩

theorem elementField_stands {id : ElementId} {context : ParticleContext} {name : String}
    {field : Field}
    (h : elementField set options answers package id context name = .ok field) :
    (∃ target, answers.elementType id = .ok target ∧ field.referenced = target.complex?) ∧
      field.type.Stands set options package field.referenced := by
  simp only [elementField, given_eq, bind_eq_ok_iff] at h
  obtain ⟨written, _, declared, _, target, htarget, value, hvalue, heq⟩ := h
  cases heq
  obtain ⟨hreferenced, hstands⟩ := valueOf_stands hvalue
  exact ⟨⟨target, htarget, hreferenced⟩, hstands⟩

theorem attributeField_stands {id : AttributeId} {name : String} {field : Field}
    (h : attributeField set options answers package id name = .ok field) :
    field.referenced = none ∧ field.type.Stands set options package none := by
  simp only [attributeField, given_eq, bind_eq_ok_iff] at h
  obtain ⟨written, _, declared, _, target, _, h⟩ := h
  split at h
  case isTrue => cases h
  case isFalse hsimple =>
      simp only [bind_eq_ok_iff] at h
      obtain ⟨value, hvalue, heq⟩ := h
      cases heq
      obtain ⟨hreferenced, hstands⟩ := valueOf_stands hvalue
      have hnone : target.complex? = none := by simpa using hsimple
      rw [hreferenced, hnone] at hstands
      exact ⟨rfl, hstands⟩

theorem memberField_stands {member : Member} {field : Field}
    (h : memberField set options answers package member = .ok field) :
    field.referenced = member.complexType? answers ∧
      field.type.Stands set options package field.referenced := by
  unfold memberField at h
  unfold Member.complexType?
  cases hsource : member.source with
  | declaredAttribute id =>
      rw [hsource] at h
      obtain ⟨hnone, hstands⟩ := attributeField_stands h
      exact ⟨hnone, hnone ▸ hstands⟩
  | declaredElement id context =>
      rw [hsource] at h
      obtain ⟨⟨target, htarget, hreferenced⟩, hstands⟩ := elementField_stands h
      simp only [htarget]
      exact ⟨hreferenced, hstands⟩

end Field

namespace Works

variable {set : SchemaSet} {options : Options} {answers : Answers (Except Error)}
  {package : String}

theorem fieldsOf_stands {members : List Member} {fields : List Field}
    (h : fieldsOf set options answers package members = .ok fields) :
    fields.filterMap Field.referenced = members.filterMap (Member.complexType? answers) ∧
      ∀ field ∈ fields, field.type.Stands set options package field.referenced := by
  induction members generalizing fields with
  | nil =>
      cases h
      exact ⟨rfl, by simp⟩
  | cons member rest ih =>
      simp only [fieldsOf, bind_eq_ok_iff] at h
      obtain ⟨field, hfield, others, hothers, heq⟩ := h
      cases heq
      obtain ⟨hreferenced, hstands⟩ := Field.memberField_stands hfield
      obtain ⟨hrest, hall⟩ := ih hothers
      constructor
      · simp only [List.filterMap_cons, hreferenced, hrest]
      · intro found hfound
        rcases List.mem_cons.mp hfound with rfl | hmem
        · exact hstands
        · exact hall found hmem

end Works

end SchemaBinding
