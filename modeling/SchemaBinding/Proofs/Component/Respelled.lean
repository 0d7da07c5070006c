import SchemaBinding.Proofs.Component.Reread

namespace SchemaBinding

instance decidableEqExcept {ε α : Type} [DecidableEq ε] [DecidableEq α] :
    DecidableEq (Except ε α)
  | .ok value, .ok value' => decidable_of_iff (value = value') ⟨congrArg _, Except.ok.inj⟩
  | .error error, .error error' =>
      decidable_of_iff (error = error') ⟨congrArg _, Except.error.inj⟩
  | .ok _, .error _ => isFalse (by rintro ⟨⟩)
  | .error _, .ok _ => isFalse (by rintro ⟨⟩)

theorem Table.get?_filter {α β : Type} [DecidableEq α] (table : Table α β)
    (keep : α → Prop) [DecidablePred keep] {key : α} (h : keep key) :
    Table.get? (table.filter fun entry => decide (keep entry.1)) key = table.get? key := by
  induction table with
  | nil => rfl
  | cons entry rest ih =>
      rw [List.filter_cons, get?]
      by_cases heq : entry.1 = key
      · rw [heq, if_pos (decide_eq_true h), if_pos rfl, get?, if_pos heq]
      · rw [if_neg heq]
        split
        · rw [get?, if_neg heq, ih]
        · exact ih

namespace Xml.Element

/-- Elements of one shape with other bindings and other spellings of the names of components, each
of which stands for the same. Elements of other namespaces may have other attributes and
children. -/
inductive Respelled : Element → Element → Prop
  | foreign {element other : Element} : element.name = other.name →
      element.inSchemaSpace = false → Respelled element other
  | mk {element other : Element} : element.name = other.name → element.text = other.text →
      (∀ key ∉ "memberTypes" :: nameKeys, element.attribute? key = other.attribute? key) →
        (∀ key ∈ nameKeys, element.target? key = other.target? key) →
          element.members = other.members →
            List.Forall₂ Respelled element.children other.children → Respelled element other

def Rewritten (element other : Element) : Prop :=
  element.Respelled other ∧ element.inSchemaSpace = true

theorem Respelled.name_eq {element other : Element} (h : element.Respelled other) :
    element.name = other.name := by
  cases h with
  | foreign hname _ => exact hname
  | mk hname _ _ _ _ _ => exact hname

theorem rewritten_filter {elements others : List Element}
    (h : List.Forall₂ Respelled elements others) :
    List.Forall₂ Rewritten (elements.filter inSchemaSpace) (others.filter inSchemaSpace) := by
  induction h with
  | nil => exact .nil
  | @cons element other rest rest' hfirst _ ih =>
      have hspace : element.inSchemaSpace = other.inSchemaSpace := by
        rw [inSchemaSpace, hfirst.name_eq, inSchemaSpace]
      rw [List.filter_cons, List.filter_cons, ← hspace]
      split
      case isTrue hinner => exact .cons ⟨hfirst, hinner⟩ ih
      case isFalse => exact ih

namespace Rewritten

variable {element other : Element} (h : element.Rewritten other)

include h

theorem tag_eq : element.tag = other.tag := by
  rw [tag, h.1.name_eq, tag]

theorem text_eq : element.text = other.text := by
  cases h.1 with
  | foreign _ hforeign => exact absurd (hforeign.symm.trans h.2) Bool.false_ne_true
  | mk _ htext _ _ _ _ => exact htext

theorem schemaChildren : List.Forall₂ Rewritten element.schemaChildren other.schemaChildren := by
  cases h.1 with
  | foreign _ hforeign => exact absurd (hforeign.symm.trans h.2) Bool.false_ne_true
  | mk _ _ _ _ _ hchildren => exact rewritten_filter hchildren

theorem childrenTagged (tag : String) :
    List.Forall₂ Rewritten (element.childrenTagged tag) (other.childrenTagged tag) :=
  List.rel_filter (fun _ _ hchild => by simp only [hchild.tag_eq]) h.schemaChildren

theorem documentation_eq : element.documentation = other.documentation := by
  have hentries : List.Forall₂ Rewritten
      ((element.childrenTagged "annotation").flatMap (·.childrenTagged "documentation"))
      ((other.childrenTagged "annotation").flatMap (·.childrenTagged "documentation")) :=
    List.rel_flatMap (h.childrenTagged "annotation")
      fun _ _ hannotation => hannotation.childrenTagged "documentation"
  rw [documentation, documentation]
  congr 1
  generalize (element.childrenTagged "annotation").flatMap _ = entries at hentries ⊢
  generalize (other.childrenTagged "annotation").flatMap _ = entries' at hentries ⊢
  induction hentries with
  | nil => rfl
  | cons hentry _ ih => rw [List.filterMap_cons, List.filterMap_cons, hentry.text_eq, ih]

theorem resembles : element.Resembles {} other := by
  cases h.1 with
  | foreign _ hforeign => exact absurd (hforeign.symm.trans h.2) Bool.false_ne_true
  | mk hname _ hplain htarget hmembers _ =>
      exact ⟨hname, hplain, htarget, hmembers, fun _ => h.documentation_eq⟩

theorem parts : List.Forall₂ Rewritten element.parts other.parts :=
  List.rel_filter (fun _ _ hchild => by simp only [hchild.tag_eq]) h.schemaChildren

theorem akin : element.Akin {} other :=
  akin_of_steps (fun _ _ hrewritten => ⟨hrewritten.resembles, hrewritten.parts⟩) element other h

end Rewritten

/-! Elements can be compared with their other attributes in one order. -/

def plainAttributes (element : Element) : Table String String :=
  element.attributes.filter fun entry => decide (entry.1 ∉ "memberTypes" :: nameKeys)

theorem get?_plainAttributes (element : Element) {key : String}
    (h : key ∉ "memberTypes" :: nameKeys) :
    Table.get? element.plainAttributes key = element.attribute? key :=
  element.attributes.get?_filter (· ∉ "memberTypes" :: nameKeys) h

/-- Elements of one name and text whose attributes stand for the same. -/
def Spells (element other : Element) : Prop :=
  element.name = other.name ∧ element.text = other.text ∧
    element.plainAttributes = other.plainAttributes ∧
      (∀ key ∈ nameKeys, element.target? key = other.target? key) ∧
        element.members = other.members

instance (element other : Element) : Decidable (element.Spells other) :=
  inferInstanceAs (Decidable (_ ∧ _))

mutual

def respells : Element → Element → Bool
  | ⟨name, attributes, text, bindings, start, stop, children⟩, other =>
      decide (Spells ⟨name, attributes, text, bindings, start, stop, children⟩ other) &&
        respellsAll children other.children

def respellsAll : List Element → List Element → Bool
  | [], [] => true
  | element :: rest, other :: others => respells element other && respellsAll rest others
  | _, _ => false

end

mutual

theorem respelled_of_respells : ∀ element other : Element, respells element other = true →
    element.Respelled other
  | ⟨name, attributes, text, bindings, start, stop, children⟩, other, h => by
      rw [respells, Bool.and_eq_true, decide_eq_true_eq] at h
      obtain ⟨⟨hname, htext, hplain, htarget, hmembers⟩, hchildren⟩ := h
      refine .mk hname htext (fun key hkey => ?_) htarget hmembers
        (respelled_of_respellsAll children other.children hchildren)
      rw [← get?_plainAttributes _ hkey, hplain, get?_plainAttributes _ hkey]

theorem respelled_of_respellsAll : ∀ elements others : List Element,
    respellsAll elements others = true → List.Forall₂ Respelled elements others
  | [], [], _ => .nil
  | element :: rest, other :: others, h => by
      rw [respellsAll, Bool.and_eq_true] at h
      exact .cons (respelled_of_respells element other h.1)
        (respelled_of_respellsAll rest others h.2)

end

end Xml.Element

/-- Prefixes are only abbreviations. -/
theorem Schema.read_respelled {document other : Xml.Document}
    (h : document.root.Respelled other.root) (id : DocumentId) (label : String)
    (permissive : Bool) {first second : Model} (hsame : first.Same True second) :
    Concurs Error.Resembles
      (fun result result' => result.1 = result'.1 ∧ result.2.Same True result'.2)
      (read document id label permissive first) (read other id label permissive second) := by
  cases hspace : document.root.inSchemaSpace with
  | true => exact concurs_read (Xml.Element.Rewritten.akin ⟨h, hspace⟩) id label permissive hsame
  | false =>
      have hspace' : other.root.inSchemaSpace = false := by
        rw [Xml.Element.inSchemaSpace, ← h.name_eq]
        exact hspace
      simp only [read, Xml.Element.isSchema, hspace, hspace', h.name_eq]
      exact .error (.malformed _ _ _)

/-! Prefixes that are renamed, declared again inside, and traded for a default namespace. -/

namespace Abbreviated

open Xml (Element)

def element (bindings : Bindings) (tag : String) (attributes : Table String String)
    (children : List Element) : Element :=
  ⟨⟨some xsdNamespace, tag⟩, attributes, none, bindings, 0, 0, children⟩

def document : Xml.Document where
  source := ""
  root :=
    let bindings : Bindings := { prefixes := [("x", xsdNamespace), ("p", "urn:p")] }
    element bindings "schema" [] [
      element bindings "element" [("name", "a"), ("type", "p:A")] [],
      element bindings "simpleType" [("name", "B")] [
        element bindings "union" [("memberTypes", "x:int p:B")] []]]

def other : Xml.Document where
  source := ""
  root :=
    let outer : Bindings := { defaultSpace := some xsdNamespace }
    let inner : Bindings := { prefixes := [("s", xsdNamespace)], defaultSpace := some "urn:p" }
    element outer "schema" [] [
      element (outer.bind "q" "urn:p") "element" [("name", "a"), ("type", "q:A")] [],
      element inner "simpleType" [("name", "B")] [
        element inner "union" [("memberTypes", "s:int B")] []]]

end Abbreviated

theorem Schema.read_respelled_abbreviated :
    Abbreviated.document.root.Respelled Abbreviated.other.root ∧ Model.Same True {} {} ∧
    (read Abbreviated.document ⟨0⟩ "a.xsd" false {}).toBool = true ∧
    Concurs Error.Resembles
      (fun result result' => result.1 = result'.1 ∧ result.2.Same True result'.2)
      (read Abbreviated.document ⟨0⟩ "a.xsd" false {})
      (read Abbreviated.other ⟨0⟩ "a.xsd" false {}) := by
  have hrespelled : Abbreviated.document.root.Respelled Abbreviated.other.root :=
    Xml.Element.respelled_of_respells _ _ (by decide +kernel)
  exact ⟨hrespelled, .empty True, by decide +kernel,
    read_respelled hrespelled ⟨0⟩ "a.xsd" false (.empty True)⟩

end SchemaBinding
