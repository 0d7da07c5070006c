import SchemaBinding.Proofs.Component.Order
import SchemaBinding.Proofs.Loading.Loaded
import SchemaBinding.Proofs.Loading.Texts

namespace SchemaBinding

/-- Texts that spell one root but for the order of its children, within a size or not together. -/
def Limits.Reorders (limits : Limits) (text other : String) : Prop :=
  (text.utf8ByteSize ≤ limits.size ↔ other.utf8ByteSize ≤ limits.size) ∧
    ∃ root root', Xml.readRoot text = .ok root ∧ Xml.readRoot other = .ok root' ∧
      root.Permuted root'

inductive Node.Reorders (limits : Limits) : Node → Node → Prop
  | same (node : Node) : Reorders limits node node
  | text {text other : String} : limits.Reorders text other →
      Reorders limits (.file (.text text)) (.file (.text other))

/-- Trees with the same files, but that the children of some roots stand in another order. -/
def FileTree.Reorders (limits : Limits) (tree other : FileTree) : Prop :=
  List.Forall₂ (fun entry entry' => entry.1 = entry'.1 ∧ entry.2.Reorders limits entry'.2)
    tree.entries other.entries

theorem Limits.Reorders.symm {limits : Limits} {text other : String}
    (h : limits.Reorders text other) : limits.Reorders other text := by
  obtain ⟨hsize, root, root', hroot, hroot', hpermuted⟩ := h
  exact ⟨hsize.symm, root', root, hroot', hroot, hpermuted.symm⟩

theorem Node.Reorders.symm {limits : Limits} {node other : Node} (h : node.Reorders limits other) :
    other.Reorders limits node := by
  cases h with
  | same => exact .same node
  | text htext => exact .text htext.symm

namespace FileTree.Reorders

variable {limits : Limits} {tree other : FileTree} (h : tree.Reorders limits other)

include h

theorem symm : other.Reorders limits tree :=
  h.flip.imp fun _ _ hentry => ⟨hentry.1.symm, hentry.2.symm⟩

theorem alike : tree.Alike limits.Reorders other := by
  apply h.imp
  rintro ⟨place, node⟩ ⟨place', node'⟩ ⟨hplace, hnode⟩
  refine ⟨hplace, ?_⟩
  cases hnode with
  | same => exact .same node
  | text htext => exact .text htext

end FileTree.Reorders

theorem Xml.Document.parse_eq_ok_iff {text : String} {limits : Limits} {document : Document} :
    parse text limits = .ok document ↔ document.source = text ∧
      readRoot text = .ok document.root ∧ document.root.checkDepth limits 0 = .ok () := by
  obtain ⟨source, root⟩ := document
  unfold parse
  cases readRoot text with
  | error fault =>
      constructor
      · intro h
        cases h
      · rintro ⟨_, h, _⟩
        cases h
  | ok found =>
      simp only [bind_eq_ok_iff]
      constructor
      · rintro ⟨_, hdepth, heq⟩
        cases heq
        exact ⟨rfl, rfl, hdepth⟩
      · rintro ⟨rfl, heq, hdepth⟩
        cases heq
        exact ⟨(), hdepth, rfl⟩

def FileTree.DeclaresOnce (tree : FileTree) (location : Location) : Prop :=
  ∀ text root, tree.readText ⟨location.text⟩ = .ok text → Xml.readRoot text = .ok root →
    root.DeclaresOnce

theorem Table.mem_of_get? {α β : Type} [DecidableEq α] {table : Table α β} {key : α} {value : β}
    (h : table.get? key = some value) : (key, value) ∈ table := by
  induction table with
  | nil => cases h
  | cons entry rest ih =>
      rw [get?] at h
      split at h
      case isTrue heq =>
          cases h
          rw [← heq]
          exact List.mem_cons_self
      case isFalse => exact List.mem_cons_of_mem _ (ih h)

theorem FileTree.mem_entries_of_node? {tree : FileTree} {place : Place} {contents : Contents}
    (h : tree.node? place = some (.file contents)) : (place, .file contents) ∈ tree.entries := by
  unfold node? at h
  split at h
  case isTrue => cases h
  case isFalse => exact Table.mem_of_get? h

theorem FileTree.exists_node?_of_readText {tree : FileTree} {path : Path} {text : String}
    (h : tree.readText path = .ok text) :
    ∃ place, tree.node? place = some (.file (.text text)) := by
  simp only [readText, find, bind_eq_ok_iff] at h
  obtain ⟨node, ⟨place, _, hnode⟩, hread⟩ := h
  cases node with
  | directory => cases hread
  | file contents =>
      cases contents with
      | bytes bytes => cases hread
      | text found =>
          cases hread
          refine ⟨place, ?_⟩
          cases hfound : tree.node? place with
          | none =>
              rw [hfound] at hnode
              cases hnode
          | some node =>
              cases node with
              | directory =>
                  rw [hfound] at hnode
                  cases hnode
              | file other =>
                  rw [hfound] at hnode
                  dsimp only at hnode
                  split at hnode
                  · cases hnode
                  · cases hnode
                    rfl

theorem FileTree.declaresOnce_of_entries {tree : FileTree}
    (h : ∀ place text root, (place, .file (.text text)) ∈ tree.entries →
      Xml.readRoot text = .ok root → root.DeclaresOnce) (location : Location) :
    tree.DeclaresOnce location := by
  intro text root htext hroot
  obtain ⟨place, hnode⟩ := exists_node?_of_readText htext
  exact h place text root (mem_entries_of_node? hnode) hroot

namespace FileTree.Reorders

variable {limits : Limits} {tree other : FileTree} (h : tree.Reorders limits other)
  {location : Location}

include h

theorem exists_root {text : String} {root : Xml.Element}
    (htext : tree.readText ⟨location.text⟩ = .ok text) (hroot : Xml.readRoot text = .ok root) :
    ∃ text' root', other.readText ⟨location.text⟩ = .ok text' ∧ Xml.readRoot text' = .ok root' ∧
      (text.utf8ByteSize ≤ limits.size ↔ text'.utf8ByteSize ≤ limits.size) ∧
        root.Permuted root' := by
  have hread := h.alike.readText_concurs ⟨location.text⟩
  rw [htext] at hread
  generalize hother : other.readText ⟨location.text⟩ = found at hread
  cases hread with
  | @ok _ text' hsame =>
      refine ⟨text', ?_⟩
      rcases hsame with rfl | ⟨hsize, first, second, hfirst, hsecond, hpermuted⟩
      · exact ⟨root, rfl, hroot, Iff.rfl, .refl root⟩
      · rw [hroot] at hfirst
        cases hfirst
        exact ⟨second, rfl, hsecond, hsize, hpermuted⟩

theorem declaresOnce (honce : tree.DeclaresOnce location) : other.DeclaresOnce location := by
  intro text root htext hroot
  obtain ⟨text', root', htext', hroot', _, hpermuted⟩ := h.symm.exists_root htext hroot
  exact hpermuted.symm.declaresOnce (honce text' root' htext' hroot')

/-- What can be loaded can be loaded with its children in another order, and asks for the same. -/
theorem exists_holds {permissive : Bool} {document : Xml.Document} {schema : Schema}
    (honce : tree.DeclaresOnce location)
    (hholds : Setting.Holds ⟨tree, limits, permissive⟩ location document schema) :
    ∃ document' schema', Setting.Holds ⟨other, limits, permissive⟩ location document' schema' ∧
      schema'.directives = schema.directives ∧ document.root.Permuted document'.root := by
  obtain ⟨hfile, ⟨text, hread, hsize, hparse⟩, model, hschema⟩ := hholds
  obtain ⟨rfl, hroot, hdepth⟩ := Xml.Document.parse_eq_ok_iff.mp hparse
  obtain ⟨text', root', hread', hroot', hsizes, hpermuted⟩ := h.exists_root hread hroot
  obtain ⟨document', rfl, rfl⟩ : ∃ document' : Xml.Document, document'.source = text' ∧
      document'.root = root' := ⟨⟨text', root'⟩, rfl, rfl⟩
  have hparse' := Xml.Document.parse_eq_ok_iff.mpr
    ⟨rfl, hroot', hpermuted.checkDepth_eq_ok hdepth⟩
  obtain ⟨schema', last, hschema', hdirectives⟩ :=
    Schema.exists_read_permuted hschema hpermuted (honce _ _ hread hroot)
  exact ⟨document', schema', ⟨hfile, ⟨_, hread', hsizes.mp hsize, hparse'⟩, last, hschema'⟩,
    hdirectives, hpermuted⟩

theorem links_eq {permissive : Bool} (honce : tree.DeclaresOnce location) :
    Setting.links ⟨tree, limits, permissive⟩ location =
      Setting.links ⟨other, limits, permissive⟩ location := by
  cases hcontents : Setting.contents ⟨tree, limits, permissive⟩ location with
  | ok found =>
      have hholds := Setting.contents_eq_ok_iff.mp hcontents
      obtain ⟨document', schema', hholds', hdirectives, _⟩ := h.exists_holds honce hholds
      rw [Setting.links_of_holds hholds, Setting.links_of_holds hholds', Schema.targets,
        Schema.targets, hdirectives]
  | error error =>
      cases hcontents' : Setting.contents ⟨other, limits, permissive⟩ location with
      | ok found =>
          obtain ⟨document, schema, hholds, _⟩ := h.symm.exists_holds (h.declaresOnce honce)
            (Setting.contents_eq_ok_iff.mp hcontents')
          rw [Setting.contents_eq_ok_iff.mpr hholds] at hcontents
          cases hcontents
      | error failure =>
          rw [Setting.links, Setting.links, hcontents, hcontents']

end FileTree.Reorders

/-! What the roots lead to. -/

theorem Found.congr {α : Type} {starts : List α} {targets targets' : α → List α} {item : α}
    (h : ∀ item, Found starts targets item → targets item = targets' item)
    (hfound : Found starts targets item) : Found starts targets' item := by
  induction hfound with
  | start hstart => exact .start hstart
  | target hbefore hnext ih =>
      rw [h _ hbefore] at hnext
      exact .target ih hnext

theorem Found.of_congr {α : Type} {starts : List α} {targets targets' : α → List α} {item : α}
    (h : ∀ item, Found starts targets item → targets item = targets' item)
    (hfound : Found starts targets' item) : Found starts targets item := by
  induction hfound with
  | start hstart => exact .start hstart
  | target _ hnext ih =>
      rw [← h _ ih] at hnext
      exact .target ih hnext

/-- No document that the roots lead to declares one name of one kind twice. -/
def Setting.DeclaresOnce (setting : Setting) (roots : List Path) : Prop :=
  ∀ location, Found (rootLocations roots) setting.targets location →
    setting.tree.DeclaresOnce location

namespace FileTree.Reorders

variable {limits : Limits} {tree other : FileTree} (h : tree.Reorders limits other)
  {permissive : Bool} {roots : List Path}
  (honce : Setting.DeclaresOnce ⟨tree, limits, permissive⟩ roots)

include h honce

theorem targets_eq {location : Location}
    (hfound : Found (rootLocations roots) (Setting.targets ⟨tree, limits, permissive⟩) location) :
    Setting.targets ⟨tree, limits, permissive⟩ location =
      Setting.targets ⟨other, limits, permissive⟩ location := by
  rw [Setting.targets, h.links_eq (honce location hfound), Setting.targets]

theorem found_iff {location : Location} :
    Found (rootLocations roots) (Setting.targets ⟨tree, limits, permissive⟩) location ↔
      Found (rootLocations roots) (Setting.targets ⟨other, limits, permissive⟩) location :=
  ⟨.congr fun _ => h.targets_eq honce, .of_congr fun _ => h.targets_eq honce⟩

theorem declaresOnce_of_roots : Setting.DeclaresOnce ⟨other, limits, permissive⟩ roots :=
  fun location hfound => h.declaresOnce (honce location ((h.found_iff honce).mpr hfound))

theorem exists_load {set : SchemaSet}
    (hload : SchemaSet.load tree roots limits permissive = .ok set) :
    ∃ set', SchemaSet.load other roots limits permissive = .ok set' := by
  have hclosure := SchemaSet.closureOf_of_load hload
  have hroom : set.locations.toFinset.card ≤ limits.documents := by
    rcases load_cases ⟨tree, limits, permissive⟩ roots with
      ⟨found, hfound, _, hroom⟩ | ⟨⟨error, herror⟩, _⟩
    · rw [hload] at hfound
      cases hfound
      rw [List.toFinset_card_of_nodup hclosure.nodup, set.length_locations]
      exact hroom
    · rw [hload] at herror
      cases herror
  rcases load_cases ⟨other, limits, permissive⟩ roots with ⟨set', hset', _⟩ | ⟨_, hhopeless⟩
  · exact ⟨set', hset'⟩
  · refine absurd hhopeless (Loading.not_hopeless ?_ ?_ hroom)
    · intro location hfound
      have hbefore := (h.found_iff honce).mpr hfound
      obtain ⟨document, schema, hholds⟩ := hclosure.loadable hbefore
      obtain ⟨document', schema', hholds', _⟩ := h.exists_holds (honce location hbefore) hholds
      exact ⟨document', schema', hholds'⟩
    · intro location hfound
      exact List.mem_toFinset.mpr ((hclosure.mem_iff location).mpr ((h.found_iff honce).mpr hfound))

end FileTree.Reorders

end SchemaBinding
