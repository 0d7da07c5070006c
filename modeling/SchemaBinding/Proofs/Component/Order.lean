import SchemaBinding.Proofs.Component.Extent

namespace SchemaBinding

open Reading

namespace Xml.Element

def isDirective (element : Element) : Bool :=
  element.isSchema "include" || element.isSchema "import"

/-- Roots with the same children, in whatever order, but that those which ask for other documents
come in the same order. -/
structure Permuted (root other : Element) : Prop where
  name : root.name = other.name
  attributes : root.attributes = other.attributes
  children : (root.children.map unplaced).Perm (other.children.map unplaced)
  directives : (root.children.filter isDirective).map unplaced =
    (other.children.filter isDirective).map unplaced

namespace Permuted

variable {root other : Element}

theorem refl (root : Element) : root.Permuted root :=
  ⟨rfl, rfl, .refl _, rfl⟩

theorem symm (h : root.Permuted other) : other.Permuted root :=
  ⟨h.name.symm, h.attributes.symm, h.children.symm, h.directives.symm⟩

theorem exists_same (h : root.Permuted other) {child : Element} (hchild : child ∈ root.children) :
    ∃ child' ∈ other.children, child.Same child' := by
  have hmem : child.unplaced ∈ other.children.map unplaced :=
    h.children.mem_iff.mp (List.mem_map_of_mem hchild)
  obtain ⟨child', hchild', heq⟩ := List.mem_map.mp hmem
  exact ⟨child', hchild', heq.symm⟩

theorem isSchema_eq (h : root.Permuted other) (tag : String) :
    root.isSchema tag = other.isSchema tag := by
  simp only [isSchema, inSchemaSpace, Element.tag, h.name]

theorem targetSpace_eq (h : root.Permuted other) :
    Schema.targetSpaceOf root = Schema.targetSpaceOf other := by
  rw [Schema.targetSpaceOf, attribute?, h.attributes]
  rfl

end Permuted

mutual

theorem checkDepth_unplaced (limits : Limits) (depth : Nat) : ∀ element : Element,
    element.unplaced.checkDepth limits depth = element.checkDepth limits depth
  | ⟨name, attributes, text, bindings, start, stop, children⟩ => by
      rw [unplaced, checkDepth, checkDepth, checkDepths_unplaced limits (depth + 1) children]

theorem checkDepths_unplaced (limits : Limits) (depth : Nat) : ∀ elements : List Element,
    checkDepths limits depth (unplacedAll elements) = checkDepths limits depth elements
  | [] => by rw [unplacedAll]
  | element :: rest => by
      rw [unplacedAll, checkDepths, checkDepths, checkDepth_unplaced limits depth element,
        checkDepths_unplaced limits depth rest]

end

theorem checkDepths_eq_ok_iff {limits : Limits} {depth : Nat} {elements : List Element} :
    checkDepths limits depth elements = .ok () ↔
      ∀ element ∈ elements, element.checkDepth limits depth = .ok () := by
  induction elements with
  | nil => simp [checkDepths]
  | cons element rest ih =>
      rw [checkDepths, bind_eq_ok_iff, ih, List.forall_mem_cons]
      exact ⟨fun ⟨_, hfirst, hrest⟩ => ⟨hfirst, hrest⟩, fun ⟨hfirst, hrest⟩ => ⟨(), hfirst, hrest⟩⟩

theorem checkDepth_eq (limits : Limits) (depth : Nat) (element : Element) :
    element.checkDepth limits depth = (do
      limits.checkDepth depth
      checkDepths limits (depth + 1) element.children) := by
  obtain ⟨name, attributes, text, bindings, start, stop, children⟩ := element
  rw [checkDepth]

theorem Permuted.checkDepth_eq_ok {root other : Element} (h : root.Permuted other) {limits : Limits}
    {depth : Nat} (hroot : root.checkDepth limits depth = .ok ()) :
    other.checkDepth limits depth = .ok () := by
  rw [checkDepth_eq, bind_eq_ok_iff] at hroot ⊢
  obtain ⟨_, hdepth, hchildren⟩ := hroot
  refine ⟨(), hdepth, checkDepths_eq_ok_iff.mpr ?_⟩
  intro child hchild
  obtain ⟨child', hchild', hsame⟩ := h.symm.exists_same hchild
  rw [← checkDepth_unplaced, hsame, checkDepth_unplaced]
  exact checkDepths_eq_ok_iff.mp hchildren child' hchild'

end Xml.Element

namespace Reading

theorem run_eq_ok_iff {α β : Type} {work : Reading α} {next : α → Reading β} {origin : Origin}
    {before : Model} {result : β × Model} :
    (work >>= next) origin before = .ok result ↔ ∃ value between,
      work origin before = .ok (value, between) ∧ next value origin between = .ok result := by
  simp only [Bind.bind, ReaderT.bind, StateT.bind]
  exact bind_eq_ok_iff.trans Prod.exists

theorem attribute?_of_required {element : Xml.Element} {key value : String} {origin : Origin}
    {before after : Model} (h : required element key origin before = .ok (value, after)) :
    element.attribute? key = some value := by
  rw [required] at h
  cases hvalue : element.attribute? key with
  | none =>
      rw [hvalue] at h
      cases h
  | some found =>
      rw [hvalue] at h
      cases h
      rfl

end Reading

namespace Reading.Child

/-- The kind and the name of what a child declares. -/
def key? (child : Child) : Option (SymbolKind × String) := do
  let kind ← child.declares?
  let name ← child.element.attribute? "name"
  return (kind, name)

theorem key?_of_same {element other : Xml.Element} (h : element.Same other) :
    (of element).key? = (of other).key? := by
  have hkind : (of element).declares? = (of other).declares? := by
    rw [declares?, tag, show (of element).element.tag = (of other).element.tag from h.tag_eq,
      declares?, tag]
  have hname : (of element).element.attribute? "name" = (of other).element.attribute? "name" :=
    h.attribute?_eq "name"
  rw [key?, hkind, hname, key?]

theorem directive?_of_same {element other : Xml.Element} (h : element.Same other) :
    (of element).directive? = (of other).directive? := by
  have htag : (of element).tag = (of other).tag := h.tag_eq
  have hattribute : ∀ key, (of element).element.attribute? key =
      (of other).element.attribute? key := h.attribute?_eq
  rw [directive?, htag, hattribute, hattribute, directive?]

theorem key?_of_declared {child : Child} {origin : Origin} {before after : Model}
    {named : Option (String × Symbol)} (h : child.declared origin before = .ok (named, after)) :
    child.key? = named.map fun named => (named.2.kind, named.1) := by
  cases hkind : child.declares? with
  | some kind =>
      simp only [declared, hkind, run_eq_ok_iff] at h
      obtain ⟨name, _, hname, id, _, _, heq⟩ := h
      cases heq
      rw [key?, hkind, attribute?_of_required hname]
      rfl
  | none =>
      have hnone : child.key? = none := by rw [key?, hkind]; rfl
      have hnamed : named = none := by
        simp only [declared, hkind] at h
        split at h
        · simp only [run_eq_ok_iff] at h
          obtain ⟨_, _, _, heq⟩ := h
          cases heq
          rfl
        · cases h
          rfl
      rw [hnone, hnamed, Option.map_none]

theorem exists_declared {element other : Xml.Element} (hsame : element.Same other)
    {origin origin' : Origin} (hspace : origin.targetSpace = origin'.targetSpace)
    (hpermissive : origin.permissive = origin'.permissive) {before before' : Model}
    {result : Option (String × Symbol) × Model}
    (h : (of element).declared origin before = .ok result) :
    ∃ result', (of other).declared origin' before' = .ok result' := by
  have hstep := inStep_of { first := before, second := before', documents := fun _ _ => True }
    element other (hsame.akin _)
  have hends := inStep_declared hstep origin origin'
    ⟨trivial, hspace, .inl hpermissive⟩ before before' .start fun _ => Nat.le_refl _
  rw [h] at hends
  obtain ⟨result', hresult', _⟩ := hends.exists_ok
  exact ⟨result', hresult'⟩

end Reading.Child

namespace Part.Chain

theorem exists_of_declared {origin : Origin} {elements : List Xml.Element}
    (h : ∀ element ∈ elements, ∀ before, ∃ result, (Child.of element).declared origin before =
      .ok result) (position : Nat) (before : Model) :
    ∃ parts last, Chain origin position before parts last ∧
      parts.map Part.child = elements.map Child.of := by
  induction elements generalizing position before with
  | nil => exact ⟨[], before, .nil _ _, rfl⟩
  | cons element rest ih =>
      obtain ⟨⟨named, after⟩, hread⟩ := h element List.mem_cons_self before
      obtain ⟨parts, last, hchain, hchildren⟩ :=
        ih (fun other hother => h other (List.mem_cons_of_mem _ hother)) (position + 1) after
      exact ⟨_ :: parts, last, .cons hread hchain, by rw [List.map_cons, List.map_cons, hchildren]⟩

theorem key?_eq {origin : Origin} {position : Nat} {first last : Model} {parts : List Part}
    (h : Chain origin position first parts last) {part : Part} (hpart : part ∈ parts) :
    part.child.key? = part.named.map fun named => (named.2.kind, named.1) :=
  Child.key?_of_declared (h.read hpart).2

end Part.Chain

namespace Xml.Element

def declaredKeys (root : Element) : List (SymbolKind × String) :=
  (schemaParts root.children).filterMap Child.key?

/-- No two children of a root declare one name of one kind. -/
def DeclaresOnce (root : Element) : Prop :=
  root.declaredKeys.Nodup

def keyOf? (element : Element) : Option (SymbolKind × String) :=
  if element.inSchemaSpace then (Child.of element).key? else none

def directiveOf? (element : Element) : Option Directive :=
  if element.inSchemaSpace then (Child.of element).directive? else none

theorem keyOf?_of_same {element other : Element} (h : element.Same other) :
    element.keyOf? = other.keyOf? := by
  rw [keyOf?, h.inSchemaSpace_eq, Child.key?_of_same h, keyOf?]

theorem directiveOf?_of_same {element other : Element} (h : element.Same other) :
    element.directiveOf? = other.directiveOf? := by
  rw [directiveOf?, h.inSchemaSpace_eq, Child.directive?_of_same h, directiveOf?]

mutual

theorem unplaced_unplaced : ∀ element : Element, element.unplaced.unplaced = element.unplaced
  | ⟨name, attributes, text, bindings, start, stop, children⟩ => by
      rw [unplaced, unplaced, unplacedAll_unplacedAll children]

theorem unplacedAll_unplacedAll : ∀ elements : List Element,
    unplacedAll (unplacedAll elements) = unplacedAll elements
  | [] => by rw [unplacedAll, unplacedAll]
  | element :: rest => by
      rw [unplacedAll, unplacedAll, unplaced_unplaced element, unplacedAll_unplacedAll rest]

end

theorem declaredKeys_eq (root : Element) :
    root.declaredKeys = (root.children.map unplaced).filterMap keyOf? := by
  rw [declaredKeys, schemaParts_eq, List.filterMap_map, List.filterMap_filter, List.filterMap_map]
  apply List.filterMap_congr
  intro element _
  exact keyOf?_of_same (unplaced_unplaced element).symm

theorem directiveOf?_eq_none {element : Element} (h : element.isDirective = false) :
    element.directiveOf? = none := by
  simp only [isDirective, isSchema, Bool.or_eq_false_iff, Bool.and_eq_false_iff,
    beq_eq_false_iff_ne] at h
  rw [directiveOf?]
  split
  case isTrue hspace =>
      rw [Child.directive?]
      split
      case h_1 htag => exact absurd htag (h.1.resolve_left (by simp [hspace]))
      case h_2 htag => exact absurd htag (h.2.resolve_left (by simp [hspace]))
      case h_3 => rfl
  case isFalse => rfl

theorem directives_eq (root : Element) :
    (schemaParts root.children).filterMap Child.directive? =
      ((root.children.filter isDirective).map unplaced).filterMap directiveOf? := by
  rw [schemaParts_eq, List.filterMap_map, List.filterMap_filter, List.filterMap_map,
    List.filterMap_filter]
  apply List.filterMap_congr
  intro element _
  change element.directiveOf? = if element.isDirective = true then element.unplaced.directiveOf?
    else none
  split
  case isTrue => exact directiveOf?_of_same (unplaced_unplaced element).symm
  case isFalse hnot => exact directiveOf?_eq_none (Bool.eq_false_iff.mpr hnot)

namespace Permuted

variable {root other : Element} (h : root.Permuted other)

include h

theorem declaresOnce (honce : root.DeclaresOnce) : other.DeclaresOnce := by
  rw [DeclaresOnce, declaredKeys_eq] at honce ⊢
  exact (h.children.filterMap keyOf?).nodup_iff.mp honce

theorem directives_eq : (schemaParts root.children).filterMap Child.directive? =
    (schemaParts other.children).filterMap Child.directive? := by
  rw [root.directives_eq, h.directives, other.directives_eq]

end Permuted

end Xml.Element

/-! Entering what is declared. -/

theorem SymbolTable.exists_enter {table : SymbolTable} {named : Option (String × Symbol)}
    (h : ∀ entry ∈ named, (entry.2.kind, entry.1) ∉ table.entries.keys) :
    ∃ next, table.enter named = .ok next ∧ next.entries.keys =
      table.entries.keys ++ (named.map fun entry => (entry.2.kind, entry.1)).toList := by
  cases named with
  | none => exact ⟨table, rfl, (List.append_nil _).symm⟩
  | some entry =>
      obtain ⟨name, symbol⟩ := entry
      have hnew := h (name, symbol) rfl
      refine ⟨_, by rw [enter, register, Table.get?_eq_none_iff.mpr hnew], ?_⟩
      rw [Table.keys_put, if_neg hnew]
      rfl

theorem Schema.exists_enterAll {parts : List Part} {schema : Schema}
    (h : (schema.symbols.entries.keys ++ parts.filterMap fun part => part.named.map fun named =>
      (named.2.kind, named.1)).Nodup) : ∃ next, schema.enterAll parts = .ok next := by
  induction parts generalizing schema with
  | nil => exact ⟨schema, rfl⟩
  | cons part rest ih =>
      have hnew : ∀ entry ∈ part.named, (entry.2.kind, entry.1) ∉ schema.symbols.entries.keys := by
        intro entry hentry hmem
        refine (List.nodup_append.mp h).2.2 _ hmem (entry.2.kind, entry.1) ?_ rfl
        refine List.mem_filterMap.mpr ⟨part, List.mem_cons_self, ?_⟩
        rw [Option.mem_def.mp hentry]
        rfl
      obtain ⟨table, htable, hkeys⟩ := SymbolTable.exists_enter hnew
      have hrest : (table.entries.keys ++ rest.filterMap fun part => part.named.map fun named =>
          (named.2.kind, named.1)).Nodup := by
        rw [hkeys, List.append_assoc]
        rw [List.filterMap_cons] at h
        cases hnamed : part.named with
        | none =>
            rw [hnamed] at h
            exact h
        | some entry =>
            rw [hnamed] at h
            exact h
      obtain ⟨next, hnext⟩ := @ih ⟨schema.targetSpace, table,
        schema.directives ++ part.child.directive?.toList⟩ hrest
      exact ⟨next, bind_eq_ok_iff.mpr ⟨_, enter_eq_ok_iff.mpr ⟨table, htable, rfl⟩, hnext⟩⟩

namespace Schema

variable {document other : Xml.Document} {id id' : DocumentId} {label label' : String}
  {permissive : Bool} {model model' last : Model} {schema : Schema}

/-- A document can be read if one can whose children are in another order, and asks for the same. -/
theorem exists_read_permuted
    (h : read document id label permissive model = .ok (schema, last))
    (hpermuted : document.root.Permuted other.root) (honce : document.root.DeclaresOnce) :
    ∃ next last', read other id' label' permissive model' = .ok (next, last') ∧
      next.directives = schema.directives := by
  obtain ⟨hroot, parts, hchain, hchildren, hentered⟩ := read_eq_ok_iff.mp h
  have hreadable : ∀ element ∈ other.root.children.filter Xml.Element.inSchemaSpace, ∀ before,
      ∃ result, (Child.of element).declared
        ⟨id', other, targetSpaceOf other.root, permissive⟩ before = .ok result := by
    intro element helement before
    obtain ⟨hmem, hspace⟩ := List.mem_filter.mp helement
    obtain ⟨original, horiginal, hsame⟩ := hpermuted.symm.exists_same hmem
    have hchild : Child.of original ∈ parts.map Part.child := by
      rw [hchildren, schemaParts_eq]
      refine List.mem_map_of_mem (List.mem_filter.mpr ⟨horiginal, ?_⟩)
      rw [← hsame.inSchemaSpace_eq]
      exact hspace
    obtain ⟨part, hpart, heq⟩ := List.mem_map.mp hchild
    have hread := (hchain.read hpart).2
    rw [heq] at hread
    refine Child.exists_declared hsame.symm ?_ ?_ hread
    · exact hpermuted.targetSpace_eq
    · rfl
  obtain ⟨others, last', hchain', hchildren'⟩ :=
    Part.Chain.exists_of_declared hreadable 0 model'
  rw [← schemaParts_eq] at hchildren'
  have hkeys : ((blank other.root label' permissive).symbols.entries.keys ++
      others.filterMap fun part => part.named.map fun named => (named.2.kind, named.1)).Nodup := by
    have heq : (others.filterMap fun part => part.named.map fun named =>
        (named.2.kind, named.1)) = other.root.declaredKeys := by
      rw [Xml.Element.declaredKeys, ← hchildren', List.filterMap_map]
      apply List.filterMap_congr
      intro part hpart
      exact (hchain'.key?_eq hpart).symm
    rw [heq]
    exact hpermuted.declaresOnce honce
  obtain ⟨next, hnext⟩ := exists_enterAll hkeys
  rw [hpermuted.isSchema_eq] at hroot
  refine ⟨next, last', read_eq_ok_iff.mpr ⟨hroot, others, hchain', hchildren', hnext⟩, ?_⟩
  have hdirectives := hpermuted.directives_eq
  rw [← hchildren, ← hchildren', List.filterMap_map, List.filterMap_map] at hdirectives
  rw [directives_enterAll hnext, directives_enterAll hentered]
  exact congrArg _ hdirectives.symm

end Schema

end SchemaBinding
