import Mathlib.Data.List.Forall2
import Mathlib.Data.Option.Basic
import SchemaBinding.FileTree
import SchemaBinding.Proofs.Outcome

namespace SchemaBinding

inductive Node.Alike (texts : String → String → Prop) : Node → Node → Prop
  | same (node : Node) : Alike texts node node
  | text {text other : String} : texts text other →
      Alike texts (.file (.text text)) (.file (.text other))

/-- Trees with the same files, but for texts in place of others. -/
def FileTree.Alike (texts : String → String → Prop) (tree other : FileTree) : Prop :=
  List.Forall₂ (fun entry entry' => entry.1 = entry'.1 ∧ entry.2.Alike texts entry'.2)
    tree.entries other.entries

namespace FileTree.Alike

variable {texts : String → String → Prop} {tree other : FileTree} (h : tree.Alike texts other)

include h

theorem node?_rel (place : Place) :
    Option.Rel (Node.Alike texts) (tree.node? place) (other.node? place) := by
  unfold node?
  split
  case isTrue => exact .some (.same _)
  case isFalse =>
      unfold FileTree.Alike at h
      generalize tree.entries = entries at h
      generalize other.entries = entries' at h
      induction h with
      | nil => exact .none
      | @cons entry entry' rest rest' hentry _ ih =>
          obtain ⟨hplace, hnode⟩ := hentry
          rw [Table.get?, Table.get?, hplace]
          split
          case isTrue => exact .some hnode
          case isFalse => exact ih

theorem follow_eq (place : Place) (pieces : List String) :
    tree.follow place pieces = other.follow place pieces := by
  induction pieces generalizing place with
  | nil => rfl
  | cons piece rest ih =>
      have hnode := h.node?_rel place
      rw [follow, follow]
      generalize tree.node? place = node at hnode ⊢
      generalize other.node? place = node' at hnode ⊢
      cases hnode with
      | none => rfl
      | @some node node' hsame =>
          cases hsame with
          | same =>
              cases node with
              | directory => simp only [ih]
              | file contents => rfl
          | text => rfl

theorem find_concurs (path : Path) :
    Concurs Eq (Node.Alike texts) (tree.find path) (other.find path) := by
  unfold find locate locateBy
  split
  case h_1 fault _ => exact .error rfl
  case h_2 =>
      rw [h.follow_eq]
      cases other.follow (Place.start path) path.route with
      | error fault => exact .error rfl
      | ok place =>
          have hnode := h.node?_rel place
          simp only [Bind.bind, Except.bind]
          generalize tree.node? place = node at hnode ⊢
          generalize other.node? place = node' at hnode ⊢
          cases hnode with
          | none => exact .error rfl
          | @some node node' hsame =>
              cases hsame with
              | same =>
                  cases node with
                  | directory => exact .ok (.same _)
                  | file contents =>
                      simp only
                      split
                      case isTrue => exact .error rfl
                      case isFalse => exact .ok (.same _)
              | text htext =>
                  simp only
                  split
                  case isTrue => exact .error rfl
                  case isFalse => exact .ok (.text htext)

theorem isDirectory_eq (path : Path) : tree.isDirectory path = other.isDirectory path := by
  have hfind := h.find_concurs path
  unfold isDirectory
  generalize tree.find path = found at hfind ⊢
  generalize other.find path = found' at hfind ⊢
  cases hfind with
  | error => rfl
  | ok hnode =>
      cases hnode with
      | same => rfl
      | text => rfl

theorem readText_concurs (path : Path) :
    Concurs Eq (fun text text' => text = text' ∨ texts text text') (tree.readText path)
      (other.readText path) := by
  apply (h.find_concurs path).bind
  intro node node' hnode
  cases hnode with
  | same =>
      cases node with
      | directory => exact .error rfl
      | file contents =>
          cases contents with
          | text text => exact .ok (.inl rfl)
          | bytes bytes => exact .error rfl
  | text htext => exact .ok (.inr htext)

theorem namesIn_eq (path : Path) : tree.namesIn path = other.namesIn path := by
  unfold namesIn
  rw [h.isDirectory_eq, h.follow_eq]
  split
  case isTrue =>
      cases other.follow (Place.start path) path.route with
      | error fault => rfl
      | ok place =>
          simp only
          unfold FileTree.Alike at h
          generalize tree.entries = entries at h ⊢
          generalize other.entries = entries' at h ⊢
          induction h with
          | nil => rfl
          | cons hentry _ ih => rw [List.filterMap_cons, List.filterMap_cons, hentry.1, ih]
  case isFalse => rfl

end FileTree.Alike

end SchemaBinding
