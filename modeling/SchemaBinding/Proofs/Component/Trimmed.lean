import SchemaBinding.Proofs.Component.Reread

namespace SchemaBinding

namespace Xml.Element

/-- Elements with the same names, attributes and bindings; places and texts may differ. -/
inductive Alike : Element → Element → Prop
  | mk {element other : Element} : element.name = other.name →
      (∀ key, element.attribute? key = other.attribute? key) →
        (∀ name, element.bindings.resolve name = other.bindings.resolve name) →
          List.Forall₂ Alike element.children other.children → Alike element other

mutual

/-- The element, and all below it, without annotations and elements of other namespaces. -/
def trimmed : Element → Element
  | ⟨name, attributes, text, bindings, start, stop, children⟩ =>
      ⟨name, attributes, text, bindings, start, stop, trimmedAll children⟩

def trimmedAll : List Element → List Element
  | [] => []
  | element :: rest =>
      if element.inSchemaSpace && element.tag != "annotation" then
        element.trimmed :: trimmedAll rest
      else trimmedAll rest

end

theorem trimmedAll_eq (elements : List Element) :
    trimmedAll elements =
      (elements.filter fun element => element.inSchemaSpace && element.tag != "annotation").map
        trimmed := by
  induction elements with
  | nil => rw [trimmedAll, List.filter_nil, List.map_nil]
  | cons element rest ih =>
      rw [trimmedAll, List.filter_cons, ih]
      split <;> rfl

@[simp] theorem name_trimmed (element : Element) : element.trimmed.name = element.name := by
  obtain ⟨name, attributes, text, bindings, start, stop, children⟩ := element
  rw [trimmed]

@[simp] theorem attribute?_trimmed (element : Element) (key : String) :
    element.trimmed.attribute? key = element.attribute? key := by
  obtain ⟨name, attributes, text, bindings, start, stop, children⟩ := element
  rw [trimmed, attribute?, attribute?]

@[simp] theorem bindings_trimmed (element : Element) :
    element.trimmed.bindings = element.bindings := by
  obtain ⟨name, attributes, text, bindings, start, stop, children⟩ := element
  rw [trimmed]

theorem children_trimmed (element : Element) :
    element.trimmed.children = element.parts.map trimmed := by
  have hparts : element.parts = element.children.filter fun child =>
      child.inSchemaSpace && child.tag != "annotation" := by
    rw [parts, schemaChildren, List.filter_filter]
    congr 1
    funext child
    exact Bool.and_comm _ _
  rw [hparts, ← trimmedAll_eq]
  obtain ⟨name, attributes, text, bindings, start, stop, children⟩ := element
  rw [trimmed]

theorem Alike.resembles {element other : Element} (h : element.trimmed.Alike other.trimmed) :
    element.Resembles { documented := False } other := by
  cases h with
  | mk hname hattributes hbindings _ =>
      simp only [name_trimmed, attribute?_trimmed, bindings_trimmed] at hname hattributes hbindings
      have hresolve : element.bindings.resolve = other.bindings.resolve := funext hbindings
      refine ⟨hname, fun key _ => hattributes key, fun key _ => ?_, ?_, False.elim⟩
      · rw [target?, hattributes, hresolve, target?]
      · rw [members, hattributes, hresolve, members]

theorem Alike.parts {element other : Element} (h : element.trimmed.Alike other.trimmed) :
    List.Forall₂ (fun child child' => child.trimmed.Alike child'.trimmed) element.parts
      other.parts := by
  cases h with
  | mk _ _ _ hchildren =>
      rw [children_trimmed, children_trimmed, List.forall₂_map_left_iff,
        List.forall₂_map_right_iff] at hchildren
      exact hchildren

theorem akin_of_trimmed {element other : Element} (h : element.trimmed.Alike other.trimmed) :
    element.Akin { documented := False } other := by
  have hsteps : ∀ element other : Element, element.trimmed.Alike other.trimmed → _ ∧ _ :=
    fun element other h => ⟨h.resembles, h.parts⟩
  exact akin_of_steps hsteps element other h

/-! Elements can be compared with all they hold in one order. -/

mutual

def agrees : Element → Element → Bool
  | ⟨name, attributes, _, bindings, _, _, children⟩,
    ⟨name', attributes', _, bindings', _, _, children'⟩ =>
      name == name' && attributes == attributes' && bindings == bindings' &&
        agreesAll children children'

def agreesAll : List Element → List Element → Bool
  | [], [] => true
  | element :: rest, other :: others => agrees element other && agreesAll rest others
  | _, _ => false

end

mutual

theorem alike_of_agrees : ∀ element other : Element, agrees element other = true →
    element.Alike other
  | ⟨name, attributes, text, bindings, start, stop, children⟩,
    ⟨name', attributes', text', bindings', start', stop', children'⟩ => by
      intro h
      simp only [agrees, Bool.and_eq_true, beq_iff_eq] at h
      obtain ⟨⟨⟨rfl, rfl⟩, rfl⟩, hchildren⟩ := h
      exact .mk rfl (fun _ => rfl) (fun _ => rfl) (alike_of_agreesAll children children' hchildren)

theorem alike_of_agreesAll : ∀ elements others : List Element, agreesAll elements others = true →
    List.Forall₂ Alike elements others
  | [], [], _ => .nil
  | element :: rest, other :: others, h => by
      rw [agreesAll, Bool.and_eq_true] at h
      exact .cons (alike_of_agrees element other h.1) (alike_of_agreesAll rest others h.2)

end

end Xml.Element

end SchemaBinding
