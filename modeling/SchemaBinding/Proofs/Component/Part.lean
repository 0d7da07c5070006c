import SchemaBinding.Component.Schema
import SchemaBinding.Proofs.Component.Places

namespace SchemaBinding

open Reading

namespace Reading.Child

def declares? (child : Child) : Option SymbolKind :=
  match child.tag with
  | "element" => some .element
  | "attribute" => some .attribute
  | "simpleType" => some .type
  | "complexType" => some .type
  | "attributeGroup" => some .attributeGroup
  | "group" => some .group
  | _ => none

def component (child : Child) (name : String) : (kind : SymbolKind) → Reading (Id kind)
  | .element => child.places.asElement none
  | .attribute => child.places.asAttribute none
  | .type => child.places.asType none
  | .attributeGroup => Schema.attributeGroup child name
  | .group => Schema.group child name

def declared (child : Child) : Reading (Option (String × Symbol)) :=
  match child.declares? with
  | some kind => do
      let name ← required child.element "name"
      let id ← child.component name kind
      return some (name, ⟨kind, id⟩)
  | none =>
      if child.tag = "include" then do
        let _ ← required child.element "schemaLocation"
        return none
      else return none

def directive? (child : Child) : Option Directive :=
  match child.tag with
  | "include" => (child.element.attribute? "schemaLocation").map .inclusion
  | "import" =>
      some (.importing (child.element.attribute? "namespace")
        (child.element.attribute? "schemaLocation"))
  | _ => none

end Reading.Child

def SymbolTable.enter (table : SymbolTable) : Option (String × Symbol) → Except Error SymbolTable
  | none => .ok table
  | some (name, symbol) => table.register name symbol

namespace Schema

/-- Takes in what a child asks for and what it declares. -/
def enter (schema : Schema) (directive? : Option Directive)
    (named : Option (String × Symbol)) : Except Error Schema := do
  return { schema with
    symbols := ← schema.symbols.enter named
    directives := schema.directives ++ directive?.toList }

theorem declared_eq (schema : Schema) {child : Child} {kind : SymbolKind}
    (hkind : child.declares? = some kind) (hask : child.directive? = none) :
    schema.declared child kind (fun name => child.component name kind) =
      child.declared >>= fun named => liftM (schema.enter child.directive? named) := by
  rw [Child.declared, hkind, hask]
  funext origin model
  simp only [Schema.declared, register, Bind.bind, ReaderT.bind, StateT.bind, Except.bind]
  cases required child.element "name" origin model with
  | error error => rfl
  | ok found =>
      cases hid : child.component found.1 kind origin found.2 with
      | error error => simp only [hid]
      | ok id =>
          have hpure : (pure (some (found.1, ⟨kind, id.1⟩)) : Reading (Option (String × Symbol)))
              origin id.2 = .ok (some (found.1, ⟨kind, id.1⟩), id.2) := rfl
          simp only [hid, hpure]
          cases hnext : schema.symbols.register found.1 ⟨kind, id.1⟩ with
          | error error =>
              simp only [enter, SymbolTable.enter, hnext]
              rfl
          | ok table =>
              simp only [enter, SymbolTable.enter, hnext, Option.toList_none, List.append_nil]
              rfl

/-- Taking in a child is reading it by itself and entering what it declares and asks for. -/
theorem add_eq (schema : Schema) (child : Child) :
    schema.add child =
      child.declared >>= fun named => liftM (schema.enter child.directive? named) := by
  unfold add
  split
  case h_1 htag =>
      have hnone : child.declares? = none := by simp [Child.declares?, htag]
      have hask : child.directive? =
          (child.element.attribute? "schemaLocation").map .inclusion := by
        simp [Child.directive?, htag]
      rw [Child.declared, hnone, hask]
      simp only [htag, if_true, required]
      cases child.element.attribute? "schemaLocation" with
      | none => rfl
      | some location => rfl
  case h_2 htag =>
      have hnone : child.declares? = none := by simp [Child.declares?, htag]
      have hask : child.directive? = some (.importing (child.element.attribute? "namespace")
          (child.element.attribute? "schemaLocation")) := by
        simp [Child.directive?, htag]
      rw [Child.declared, hnone, hask]
      simp only [htag]
      rfl
  case h_9 hinclude himport helement hattribute hsimple hcomplex hattributes hgroup =>
      have hnone : child.declares? = none := by
        unfold Child.declares?
        split <;> first | rfl | contradiction
      have hask : child.directive? = none := by
        unfold Child.directive?
        split <;> first | rfl | contradiction
      rw [Child.declared, hnone, hask, if_neg hinclude]
      obtain ⟨space, symbols, directives⟩ := schema
      simp only [enter, SymbolTable.enter, Option.toList_none, List.append_nil]
      rfl
  all_goals
    rename_i htag
    refine Schema.declared_eq schema ?_ ?_
    · simp [Child.declares?, htag]
    · simp [Child.directive?, htag]

end Schema

/-! Parts. -/

/-- A child of a root, with the models before and after it was read and what it declares. -/
structure Part where
  document : DocumentId
  /-- The number of children before it. -/
  position : Nat
  child : Child
  before : Model
  after : Model
  named : Option (String × Symbol)

namespace Part

def symbol? (part : Part) (kind : SymbolKind) (name : String) : Option (Id kind) :=
  part.named.bind fun named =>
    if named.2.kind = kind ∧ named.1 = name then some ⟨named.2.id.index⟩ else none

/-- Parts that are read one after another. -/
inductive Chain (origin : Origin) : Nat → Model → List Part → Model → Prop
  | nil (position : Nat) (model : Model) : Chain origin position model [] model
  | cons {position : Nat} {child : Child} {before after last : Model}
      {named : Option (String × Symbol)} {rest : List Part} :
      child.declared origin before = .ok (named, after) →
        Chain origin (position + 1) after rest last →
          Chain origin position before
            (⟨origin.document, position, child, before, after, named⟩ :: rest) last

theorem Chain.read {origin : Origin} {position : Nat} {first last : Model} {parts : List Part}
    (h : Chain origin position first parts last) {part : Part} (hpart : part ∈ parts) :
    part.document = origin.document ∧
      part.child.declared origin part.before = .ok (part.named, part.after) := by
  induction h with
  | nil => cases hpart
  | cons hread _ ih =>
      rcases List.mem_cons.mp hpart with rfl | hrest
      · exact ⟨rfl, hread⟩
      · exact ih hrest

end Part

namespace Schema

def enterAll (schema : Schema) (parts : List Part) : Except Error Schema :=
  parts.foldlM (fun schema part => schema.enter part.child.directive? part.named) schema

theorem foldlM_add_eq_ok_iff {children : List Child} {schema next : Schema} {origin : Origin}
    {before last : Model} (position : Nat) :
    children.foldlM add schema origin before = .ok (next, last) ↔
      ∃ parts, Part.Chain origin position before parts last ∧ parts.map Part.child = children ∧
        schema.enterAll parts = .ok next := by
  induction children generalizing schema before position with
  | nil =>
      constructor
      · intro h
        cases h
        exact ⟨[], .nil _ _, rfl, rfl⟩
      · rintro ⟨parts, hchain, hmap, hnext⟩
        cases List.map_eq_nil_iff.mp hmap
        cases hchain
        cases hnext
        rfl
  | cons child rest ih =>
      have hstep : (child :: rest).foldlM add schema origin before =
          (child.declared origin before >>= fun found =>
            schema.enter child.directive? found.1 >>= fun entered =>
              rest.foldlM add entered origin found.2) := by
        rw [List.foldlM_cons, add_eq]
        simp only [Bind.bind, ReaderT.bind, StateT.bind]
        cases child.declared origin before with
        | error error => rfl
        | ok found =>
            simp only [Except.bind]
            cases schema.enter child.directive? found.1 <;> rfl
      rw [hstep]
      simp only [bind_eq_ok_iff, ih (position + 1)]
      constructor
      · rintro ⟨⟨named, after⟩, hread, entered, hentered, parts, hchain, hmap, hnext⟩
        refine ⟨_ :: parts, .cons hread hchain, by rw [List.map_cons, hmap], ?_⟩
        exact bind_eq_ok_iff.mpr ⟨entered, hentered, hnext⟩
      · rintro ⟨parts, hchain, hmap, hnext⟩
        cases hchain with
        | nil => cases hmap
        | cons hread hrest =>
            obtain ⟨rfl, htail⟩ := List.cons.inj hmap
            obtain ⟨entered, hentered, hnext⟩ := bind_eq_ok_iff.mp hnext
            exact ⟨_, hread, entered, hentered, _, hrest, htail, hnext⟩

def blank (root : Xml.Element) (label : String) (permissive : Bool) : Schema :=
  ⟨targetSpaceOf root, { document := label, permissive := permissive }, []⟩

theorem read_eq_ok_iff {document : Xml.Document} {id : DocumentId} {label : String}
    {permissive : Bool} {model last : Model} {schema : Schema} :
    read document id label permissive model = .ok (schema, last) ↔
      document.root.isSchema "schema" = true ∧
        ∃ parts, Part.Chain ⟨id, document, targetSpaceOf document.root, permissive⟩ 0 model parts
            last ∧
          parts.map Part.child = schemaParts document.root.children ∧
            (blank document.root label permissive).enterAll parts = .ok schema := by
  rw [← foldlM_add_eq_ok_iff]
  cases hroot : document.root.isSchema "schema" with
  | false =>
      simp only [read, hroot]
      constructor
      · intro h
        cases h
      · rintro ⟨h, _⟩
        cases h
  | true =>
      simp only [read, hroot, true_and]
      rfl

end Schema

theorem SymbolTable.get?_enter {table next : SymbolTable} {named : Option (String × Symbol)}
    (h : table.enter named = .ok next) (kind : SymbolKind) (name : String) :
    next.get? kind name = (table.get? kind name).or
      (named.bind fun named =>
        if named.2.kind = kind ∧ named.1 = name then some ⟨named.2.id.index⟩ else none) := by
  cases named with
  | none =>
      cases h
      rw [Option.bind_none, Option.or_none]
  | some named =>
      obtain ⟨other, symbol⟩ := named
      simp only [Option.bind_some]
      cases hold : table.get? kind name with
      | some id =>
          rw [get?_register_of_some hold h]
          rfl
      | none =>
          rw [Option.none_or]
          by_cases hkey : symbol.kind = kind ∧ other = name
          · obtain ⟨rfl, rfl⟩ := hkey
            rw [get?_register_self hold h, if_pos ⟨rfl, rfl⟩]
          · rw [if_neg hkey]
            have hne : (kind, name) ≠ (symbol.kind, other) := by
              intro heq
              exact hkey ⟨(congrArg Prod.fst heq).symm, (congrArg Prod.snd heq).symm⟩
            simp only [enter, register] at h
            split at h
            · cases h
              rw [get?, Table.get?_put_other _ _ hne]
              exact hold
            · split at h
              · cases h
                exact hold
              · cases h

namespace Schema

theorem enter_eq_ok_iff {schema next : Schema} {directive? : Option Directive}
    {named : Option (String × Symbol)} :
    schema.enter directive? named = .ok next ↔
      ∃ table, schema.symbols.enter named = .ok table ∧
        next = ⟨schema.targetSpace, table, schema.directives ++ directive?.toList⟩ := by
  rw [enter, bind_eq_ok_iff]
  constructor
  · rintro ⟨table, htable, heq⟩
    cases heq
    exact ⟨table, htable, rfl⟩
  · rintro ⟨table, htable, rfl⟩
    exact ⟨table, htable, rfl⟩

theorem targetSpace_enterAll {schema next : Schema} {parts : List Part}
    (h : schema.enterAll parts = .ok next) : next.targetSpace = schema.targetSpace := by
  induction parts generalizing schema with
  | nil =>
      cases h
      rfl
  | cons part rest ih =>
      obtain ⟨entered, hentered, hrest⟩ := bind_eq_ok_iff.mp h
      obtain ⟨table, _, rfl⟩ := enter_eq_ok_iff.mp hentered
      exact @ih ⟨_, table, _⟩ hrest

theorem directives_enterAll {schema next : Schema} {parts : List Part}
    (h : schema.enterAll parts = .ok next) :
    next.directives =
      schema.directives ++ parts.filterMap fun part => part.child.directive? := by
  induction parts generalizing schema with
  | nil =>
      cases h
      rw [List.filterMap_nil, List.append_nil]
  | cons part rest ih =>
      obtain ⟨entered, hentered, hrest⟩ := bind_eq_ok_iff.mp h
      obtain ⟨table, _, rfl⟩ := enter_eq_ok_iff.mp hentered
      have hnext := @ih ⟨_, table, _⟩ hrest
      rw [hnext, List.append_assoc, List.filterMap_cons]
      cases part.child.directive? <;> rfl

theorem get?_enterAll {schema next : Schema} {parts : List Part}
    (h : schema.enterAll parts = .ok next) (kind : SymbolKind) (name : String) :
    next.symbols.get? kind name = (schema.symbols.get? kind name).or
      (parts.findSome? fun part => part.symbol? kind name) := by
  induction parts generalizing schema with
  | nil =>
      cases h
      rw [List.findSome?_nil, Option.or_none]
  | cons part rest ih =>
      obtain ⟨entered, hentered, hrest⟩ := bind_eq_ok_iff.mp h
      obtain ⟨table, htable, rfl⟩ := enter_eq_ok_iff.mp hentered
      have hnext := @ih ⟨_, table, _⟩ hrest
      rw [hnext, SymbolTable.get?_enter htable, Option.or_assoc, List.findSome?_cons]
      congr 1
      change (part.symbol? kind name).or _ = _
      cases part.symbol? kind name <;> rfl

end Schema

end SchemaBinding
