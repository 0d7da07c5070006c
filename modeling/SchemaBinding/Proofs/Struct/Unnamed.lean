import SchemaBinding.Emission.Walk
import SchemaBinding.Proofs.Component.Below
import SchemaBinding.Proofs.Loading.Single
import SchemaBinding.Proofs.Name.Words
import SchemaBinding.Struct.Naming

namespace SchemaBinding

namespace Schema

/-- A type without a name is found below a definition that the schema registers, within the
declarations on a path. -/
def HasUnnamed (schema : Schema) (model : Model) (kind : SymbolKind) (name : String)
    (path : List String) (type : TypeDef) : Prop :=
  ∃ (top : Id kind) (inner : TypeId), schema.symbols.get? kind name = some top ∧
    model.Below name top path ⟨.type, inner⟩ ∧ model.type? inner = some type ∧ type.name = none

variable {document : Xml.Document} {id : DocumentId} {label : String} {permissive : Bool}
  {model next : Model} {schema : Schema}

/-- A type without a name is owned by the path to it, which begins with the definition. -/
theorem owner_of_hasUnnamed (hmodel : model.OfDocuments)
    (h : read document id label permissive model = .ok (schema, next)) {kind : SymbolKind}
    {name : String} {path : List String} {type : TypeDef}
    (htype : schema.HasUnnamed next kind name path type) :
    (∃ rest, path = name :: rest) ∧ type.owner = some (Text.joinWith "_" path) ∧
      type.space = targetSpaceOf document.root := by
  obtain ⟨top, inner, htop, hbelow, hinner, hname⟩ := htype
  obtain ⟨howns, htitles⟩ := (makes_read h).2 kind name top htop
  have hsprung : next.Sprung := (hmodel.read h).sprung
  obtain ⟨hpath, found, hfound, hspace, howner⟩ :=
    Model.stands_of_below hsprung (Model.stands_of_top howns htitles) hbelow
  cases hfound.symm.trans hinner
  rw [hname, scopeOf_ne_none hpath] at howner
  refine ⟨?_, ?_, hspace⟩
  · exact (Model.cases_of_below htitles hbelow).resolve_left fun hnil => hpath hnil.2.1
  · cases hold : type.owner with
    | none =>
        rw [hold] at howner
        cases howner
    | some owner =>
        rw [hold] at howner
        exact howner

/-- Types without a name that a document declares are named after the paths to them. Two of them
have one struct exactly if the words of the paths run together to the same, and have different
structs if the paths differ only in definitions whose names are different as identifiers. -/
theorem unnamed_share_struct_iff (hmodel : model.OfDocuments)
    (h : read document id label permissive model = .ok (schema, next)) :
    (∀ kind name path type, schema.HasUnnamed next kind name path type →
      (∃ rest, path = name :: rest) ∧ type.owner = some (Text.joinWith "_" path) ∧
        type.structName =
          String.ofList (Identifier.started (Identifier.wordChars path)) ++ "Type") ∧
    ∀ kind name path type kind' name' path' type',
      schema.HasUnnamed next kind name path type →
      schema.HasUnnamed next kind' name' path' type' →
        (type.structName = type'.structName ↔
          Identifier.started (Identifier.wordChars path) =
            Identifier.started (Identifier.wordChars path')) ∧
        (∀ options, type.structKey options = type'.structKey options ↔
          Identifier.started (Identifier.wordChars path) =
            Identifier.started (Identifier.wordChars path')) ∧
        ∀ rest, path = name :: rest → path' = name' :: rest →
          Identifier.exported name ≠ Identifier.exported name' →
            type.structName ≠ type'.structName := by
  have hnamed : ∀ kind name path type, schema.HasUnnamed next kind name path type →
      type.structName =
        String.ofList (Identifier.started (Identifier.wordChars path)) ++ "Type" := by
    intro kind name path type htype
    obtain ⟨_, howner, _⟩ := owner_of_hasUnnamed hmodel h htype
    obtain ⟨_, _, _, _, _, hname⟩ := htype
    rw [TypeDef.structName, hname, howner]
    simp only [Identifier.exported_eq, Identifier.exportChars_joinWith]
  refine ⟨?_, ?_⟩
  · intro kind name path type htype
    obtain ⟨hpath, howner, _⟩ := owner_of_hasUnnamed hmodel h htype
    exact ⟨hpath, howner, hnamed kind name path type htype⟩
  · intro kind name path type kind' name' path' type' htype htype'
    have hiff : type.structName = type'.structName ↔
        Identifier.started (Identifier.wordChars path) =
          Identifier.started (Identifier.wordChars path') := by
      rw [hnamed kind name path type htype, hnamed kind' name' path' type' htype',
        String.append_left_inj, String.ofList_inj]
    have hspace : type.space = type'.space := by
      rw [(owner_of_hasUnnamed hmodel h htype).2.2, (owner_of_hasUnnamed hmodel h htype').2.2]
    refine ⟨hiff, ?_, ?_⟩
    · intro options
      rw [← hiff, TypeDef.structKey, TypeDef.structKey, TypeDef.package, TypeDef.package, hspace,
        Prod.mk.injEq]
      exact and_iff_right rfl
    · rintro rest rfl rfl hne heq
      apply hne
      rw [Identifier.exported_eq, Identifier.exported_eq,
        Identifier.started_eq_of_append (hiff.mp heq)]

end Schema

/-! An order as an element and an order as a type, each with items of its own. -/

namespace Itemized

def text : String :=
  "<xs:schema xmlns:xs=\"http://www.w3.org/2001/XMLSchema\"><xs:element name=\"Order\">" ++
    "<xs:complexType><xs:sequence><xs:element name=\"item\"><xs:complexType>" ++
    "<xs:attribute name=\"sku\" type=\"xs:string\"/></xs:complexType></xs:element>" ++
    "</xs:sequence></xs:complexType></xs:element><xs:complexType name=\"Order\">" ++
    "<xs:sequence><xs:element name=\"item\"><xs:complexType>" ++
    "<xs:attribute name=\"weight\" type=\"xs:string\"/></xs:complexType></xs:element>" ++
    "</xs:sequence></xs:complexType></xs:schema>"

/-- The names around the last of some components that mention each other. -/
def path? (model : Model) (path : List String) (symbol : Symbol) :
    List Symbol → Option (List String)
  | [] => some path
  | next :: rest => do
      let component ← model.component? symbol.id
      if next ∈ component.mentions.symbols then path? model (component.around path) next rest
      else none

theorem below_of_path? {model : Model} {kind : SymbolKind} {name : String} {top : Id kind}
    {path last : List String} {symbol : Symbol} (h : model.Below name top path symbol)
    {steps : List Symbol} (hpath : path? model path symbol steps = some last) :
    model.Below name top last (steps.getLastD symbol) := by
  induction steps generalizing path symbol with
  | nil =>
      cases hpath
      exact h
  | cons next rest ih =>
      obtain ⟨component, hcomponent, hnext⟩ := Option.bind_eq_some_iff.mp hpath
      split at hnext
      case isTrue hmem =>
          rw [List.getLastD_cons]
          exact ih (.inside h hcomponent hmem) hnext
      case isFalse => cases hnext

def Item (start : Nat) (type : TypeDef) : Prop :=
  type.span.start = start ∧ type.name = none ∧ type.isComplex = true ∧ type.space = none ∧
    type.structName = "OrderItemType"

instance (start : Nat) : DecidablePred (Item start) := fun _ =>
  inferInstanceAs (Decidable (_ ∧ _))

def Known (set : SchemaSet) : Prop :=
  (set.document? ⟨0⟩).map (fun document =>
      (document.symbols.get? .element "Order", document.symbols.get? .type "Order")) =
    some (some ⟨1⟩, some ⟨3⟩) ∧
  path? set.model [] ⟨.element, ⟨1⟩⟩ [⟨.type, ⟨1⟩⟩, ⟨.element, ⟨0⟩⟩, ⟨.type, ⟨0⟩⟩] =
    some ["Order", "item"] ∧
  path? set.model ["Order"] ⟨.type, ⟨3⟩⟩ [⟨.element, ⟨2⟩⟩, ⟨.type, ⟨2⟩⟩] =
    some ["Order", "item"] ∧
  (set.model.type? ⟨0⟩).map (fun type => decide (Item 133 type)) = some true ∧
  (set.model.type? ⟨2⟩).map (fun type => decide (Item 332 type)) = some true

instance : DecidablePred Known := fun _ =>
  inferInstanceAs (Decidable (_ ∧ _))

theorem exists_alone : ∃ document next, Xml.Document.parse text .strict = .ok document ∧
    Loading.alone document ⟨"a.xsd"⟩ false = .ok next ∧ Known next.set := by
  refine Loading.exists_alone ?_
  decide +kernel

theorem exists_read : ∃ document schema model first second,
    Xml.Document.parse text .strict = .ok document ∧
      Schema.read document ⟨0⟩ "a.xsd" false {} = .ok (schema, model) ∧
      schema.HasUnnamed model .element "Order" ["Order", "item"] first ∧ Item 133 first ∧
      schema.HasUnnamed model .type "Order" ["Order", "item"] second ∧ Item 332 second := by
  obtain ⟨document, next, hparse, halone, hnames, hpath, hpath', hfirst, hsecond⟩ := exists_alone
  simp only [Loading.alone, bind_eq_ok_iff] at halone
  obtain ⟨⟨schema, model⟩, hread, heq⟩ := halone
  cases heq
  have hnames := Option.some.inj hnames
  obtain ⟨helement, htype⟩ := Prod.mk.inj hnames
  obtain ⟨first, hfirst, hitem⟩ := Option.map_eq_some_iff.mp hfirst
  obtain ⟨second, hsecond, hitem'⟩ := Option.map_eq_some_iff.mp hsecond
  have hitem := of_decide_eq_true hitem
  have hitem' := of_decide_eq_true hitem'
  refine ⟨document, schema, model, first, second, hparse, hread,
    ⟨⟨1⟩, ⟨0⟩, helement, ?_, hfirst, hitem.2.1⟩, hitem, ⟨⟨3⟩, ⟨2⟩, htype, ?_, hsecond, hitem'.2.1⟩,
    hitem'⟩
  · have htop : model.Below "Order" (⟨1⟩ : Id .element) [] ⟨.element, ⟨1⟩⟩ := .top
    exact below_of_path? htop hpath
  · have htop : model.Below "Order" (⟨3⟩ : Id .type) ["Order"] ⟨.type, ⟨3⟩⟩ := .top
    exact below_of_path? htop hpath'

end Itemized

/-- The items of the two orders are different, and have one struct. -/
theorem Schema.one_struct_for_two_items :
    ∃ document schema model first second,
      Xml.Document.parse Itemized.text .strict = .ok document ∧
        read document ⟨0⟩ "a.xsd" false {} = .ok (schema, model) ∧
        schema.HasUnnamed model .element "Order" ["Order", "item"] first ∧
        schema.HasUnnamed model .type "Order" ["Order", "item"] second ∧
        first.isComplex = true ∧ second.isComplex = true ∧ first.span ≠ second.span ∧
        first.structName = second.structName ∧
        ∀ options, first.structKey options = second.structKey options := by
  obtain ⟨document, schema, model, first, second, hparse, hread, hfirst,
    ⟨hstart, _, hcomplex, hspace, hstruct⟩, hsecond, ⟨hstart', _, hcomplex', hspace', hstruct'⟩⟩ :=
    Itemized.exists_read
  have hname : first.structName = second.structName := hstruct.trans hstruct'.symm
  refine ⟨document, schema, model, first, second, hparse, hread, hfirst, hsecond, hcomplex,
    hcomplex', ?_, hname, ?_⟩
  · intro hspan
    cases (hstart.symm.trans (congrArg Span.start hspan)).trans hstart'
  · intro options
    rw [TypeDef.structKey, TypeDef.structKey, TypeDef.package, TypeDef.package, hspace, hspace',
      hname]

theorem Schema.unnamed_share_struct_iff_itemized :
    ∃ document schema model first second,
      read document ⟨0⟩ "a.xsd" false {} = .ok (schema, model) ∧
        schema.HasUnnamed model .element "Order" ["Order", "item"] first ∧
        schema.HasUnnamed model .type "Order" ["Order", "item"] second ∧
        first.owner = some "Order_item" ∧
        (first.structName = second.structName ↔
          Identifier.started (Identifier.wordChars ["Order", "item"]) =
            Identifier.started (Identifier.wordChars ["Order", "item"])) := by
  obtain ⟨document, schema, model, first, second, _, hread, hfirst, _, hsecond, _⟩ :=
    Itemized.exists_read
  obtain ⟨howned, hshared⟩ := unnamed_share_struct_iff .empty hread
  exact ⟨document, schema, model, first, second, hread, hfirst, hsecond,
    (howned .element _ _ first hfirst).2.1,
    (hshared .element _ _ first .type _ _ second hfirst hsecond).1⟩

end SchemaBinding
