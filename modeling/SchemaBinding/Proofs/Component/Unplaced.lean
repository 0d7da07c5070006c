import Mathlib.Data.List.Forall2
import SchemaBinding.Xml.Document

namespace SchemaBinding

namespace Xml.Element

mutual

/-- The element with no place in a source. -/
def unplaced : Element → Element
  | ⟨name, attributes, text, bindings, _, _, children⟩ =>
      ⟨name, attributes, text, bindings, 0, 0, unplacedAll children⟩

def unplacedAll : List Element → List Element
  | [] => []
  | element :: rest => element.unplaced :: unplacedAll rest

end

theorem unplacedAll_eq (elements : List Element) :
    unplacedAll elements = elements.map unplaced := by
  induction elements with
  | nil => rw [unplacedAll, List.map_nil]
  | cons element rest ih => rw [unplacedAll, ih, List.map_cons]

@[simp] theorem name_unplaced (element : Element) : element.unplaced.name = element.name := by
  obtain ⟨name, attributes, text, bindings, start, stop, children⟩ := element
  rw [unplaced]

@[simp] theorem attributes_unplaced (element : Element) :
    element.unplaced.attributes = element.attributes := by
  obtain ⟨name, attributes, text, bindings, start, stop, children⟩ := element
  rw [unplaced]

@[simp] theorem text_unplaced (element : Element) : element.unplaced.text = element.text := by
  obtain ⟨name, attributes, text, bindings, start, stop, children⟩ := element
  rw [unplaced]

@[simp] theorem bindings_unplaced (element : Element) :
    element.unplaced.bindings = element.bindings := by
  obtain ⟨name, attributes, text, bindings, start, stop, children⟩ := element
  rw [unplaced]

@[simp] theorem children_unplaced (element : Element) :
    element.unplaced.children = element.children.map unplaced := by
  obtain ⟨name, attributes, text, bindings, start, stop, children⟩ := element
  rw [unplaced, unplacedAll_eq]

@[simp] theorem tag_unplaced (element : Element) : element.unplaced.tag = element.tag := by
  rw [tag, name_unplaced, tag]

@[simp] theorem inSchemaSpace_unplaced (element : Element) :
    element.unplaced.inSchemaSpace = element.inSchemaSpace := by
  rw [inSchemaSpace, name_unplaced, inSchemaSpace]

@[simp] theorem attribute?_unplaced (element : Element) (key : String) :
    element.unplaced.attribute? key = element.attribute? key := by
  rw [attribute?, attributes_unplaced, attribute?]

theorem schemaChildren_unplaced (element : Element) :
    element.unplaced.schemaChildren = element.schemaChildren.map unplaced := by
  simp only [schemaChildren, children_unplaced, List.filter_map, Function.comp_def,
    inSchemaSpace_unplaced]

theorem childrenTagged_unplaced (element : Element) (tag : String) :
    element.unplaced.childrenTagged tag = (element.childrenTagged tag).map unplaced := by
  simp only [childrenTagged, schemaChildren_unplaced, List.filter_map, Function.comp_def,
    tag_unplaced]

@[simp] theorem documentation_unplaced (element : Element) :
    element.unplaced.documentation = element.documentation := by
  simp only [documentation, childrenTagged_unplaced, List.flatMap_map, ← List.map_flatMap,
    List.filterMap_map, Function.comp_def, text_unplaced]

def Same (element other : Element) : Prop :=
  element.unplaced = other.unplaced

namespace Same

variable {element other : Element}

theorem name_eq (h : element.Same other) : element.name = other.name := by
  simpa using congrArg name h

theorem tag_eq (h : element.Same other) : element.tag = other.tag := by
  simpa using congrArg tag h

theorem inSchemaSpace_eq (h : element.Same other) :
    element.inSchemaSpace = other.inSchemaSpace := by
  simpa using congrArg inSchemaSpace h

theorem attribute?_eq (h : element.Same other) (key : String) :
    element.attribute? key = other.attribute? key := by
  simpa using congrArg (attribute? · key) h

theorem bindings_eq (h : element.Same other) : element.bindings = other.bindings := by
  simpa using congrArg bindings h

theorem documentation_eq (h : element.Same other) :
    element.documentation = other.documentation := by
  simpa using congrArg documentation h

theorem children (h : element.Same other) : List.Forall₂ Same element.children other.children := by
  have hchildren : element.children.map unplaced = other.children.map unplaced := by
    simpa using congrArg Element.children h
  rw [← List.forall₂_eq_eq_eq, List.forall₂_map_left_iff, List.forall₂_map_right_iff] at hchildren
  exact hchildren

end Same

theorem same_refl (element : Element) : element.Same element :=
  rfl

end Xml.Element

end SchemaBinding
