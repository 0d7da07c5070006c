import SchemaBinding.Component.Basic

namespace SchemaBinding

structure Model where
  types : Array TypeDef := #[]
  elements : Array ElementDecl := #[]
  attributes : Array AttributeDecl := #[]
  attributeGroups : Array AttributeGroupDef := #[]
  groups : Array GroupDef := #[]

namespace Model

def addType (model : Model) (type : TypeDef) : TypeId × Model :=
  (⟨model.types.size⟩, { model with types := model.types.push type })

def addElement (model : Model) (element : ElementDecl) : ElementId × Model :=
  (⟨model.elements.size⟩, { model with elements := model.elements.push element })

def addAttribute (model : Model) (declared : AttributeDecl) : AttributeId × Model :=
  (⟨model.attributes.size⟩, { model with attributes := model.attributes.push declared })

def addAttributeGroup (model : Model) (group : AttributeGroupDef) : AttributeGroupId × Model :=
  (⟨model.attributeGroups.size⟩,
    { model with attributeGroups := model.attributeGroups.push group })

def addGroup (model : Model) (group : GroupDef) : GroupId × Model :=
  (⟨model.groups.size⟩, { model with groups := model.groups.push group })

def type? (model : Model) (id : TypeId) : Option TypeDef :=
  model.types[id.index]?

def element? (model : Model) (id : ElementId) : Option ElementDecl :=
  model.elements[id.index]?

def attribute? (model : Model) (id : AttributeId) : Option AttributeDecl :=
  model.attributes[id.index]?

def attributeGroup? (model : Model) (id : AttributeGroupId) : Option AttributeGroupDef :=
  model.attributeGroups[id.index]?

def group? (model : Model) (id : GroupId) : Option GroupDef :=
  model.groups[id.index]?

def size (model : Model) : SymbolKind → Nat
  | .element => model.elements.size
  | .attribute => model.attributes.size
  | .type => model.types.size
  | .attributeGroup => model.attributeGroups.size
  | .group => model.groups.size

def componentCount (model : Model) : Nat :=
  model.types.size + model.elements.size + model.attributes.size +
    model.attributeGroups.size + model.groups.size

def typeIds (model : Model) : List TypeId :=
  (List.range model.types.size).map Id.mk

def span? (model : Model) (kind : SymbolKind) (id : Id kind) : Option Span :=
  match kind with
  | .element => (model.element? id).map ElementDecl.span
  | .attribute => (model.attribute? id).map AttributeDecl.span
  | .type => (model.type? id).map TypeDef.span
  | .attributeGroup => (model.attributeGroup? id).map AttributeGroupDef.span
  | .group => (model.group? id).map GroupDef.span

theorem type?_addType_self (model : Model) (type : TypeDef) :
    (model.addType type).2.type? (model.addType type).1 = some type := by
  simp [addType, type?]

theorem type?_addType_of_some {model : Model} {type old : TypeDef} {id : TypeId}
    (h : model.type? id = some old) : (model.addType type).2.type? id = some old := by
  have hi : id.index < model.types.size := (Array.getElem?_eq_some_iff.mp h).choose
  rw [type?, Array.getElem?_eq_getElem hi] at h
  rw [type?, addType, Array.getElem?_push_lt hi]
  exact h

end Model

end SchemaBinding
