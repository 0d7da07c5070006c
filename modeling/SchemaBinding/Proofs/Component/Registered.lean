import SchemaBinding.Proofs.Component.Order
import SchemaBinding.Proofs.Component.Registry
import SchemaBinding.Proofs.Component.Stems
import SchemaBinding.Proofs.Loading.Single

namespace SchemaBinding

namespace Component

def space : {kind : SymbolKind} → Component kind → Option String
  | .element => ElementDecl.space
  | .attribute => AttributeDecl.space
  | .type => TypeDef.space
  | .attributeGroup => AttributeGroupDef.space
  | .group => GroupDef.space

def span : {kind : SymbolKind} → Component kind → Span
  | .element => ElementDecl.span
  | .attribute => AttributeDecl.span
  | .type => TypeDef.span
  | .attributeGroup => AttributeGroupDef.span
  | .group => GroupDef.span

end Component

namespace Reading

open Xml (Element)

variable {α β : Type} {origin : Origin} {Good : Model → β → Prop}

/-- A reading ends with a value that is good in the model that it leaves. -/
def Leaves (origin : Origin) (Good : Model → α → Prop) (work : Reading α) : Prop :=
  ∀ before value after, work origin before = .ok (value, after) → Good after value

theorem leaves_next {work : Reading α} {next : α → Reading β}
    (h : ∀ value, Leaves origin Good (next value)) : Leaves origin Good (work >>= next) := by
  intro before value after heq
  obtain ⟨middle, between, _, hnext⟩ := run_eq_ok_iff.mp heq
  exact h middle between value after hnext

theorem leaves_read {next : Origin → Reading β} (h : Leaves origin Good (next origin)) :
    Leaves origin Good (read >>= next) :=
  fun before value after heq => h before value after heq

/-- The number stands for a component of the document's namespace that is written as the element. -/
def StandsFor (origin : Origin) (element : Element) {kind : SymbolKind} (model : Model)
    (id : Id kind) : Prop :=
  ∃ component, model.component? id = some component ∧
    component.space = origin.targetSpace ∧
      component.span = ⟨origin.document, element.start, element.stop⟩

theorem standsFor_push {element : Element} {kind : SymbolKind} (component : Component kind)
    (hspace : component.space = origin.targetSpace)
    (hspan : component.span = ⟨origin.document, element.start, element.stop⟩) (model : Model) :
    StandsFor origin element (model.push component) (⟨model.size kind⟩ : Id kind) :=
  ⟨component, Model.component?_push_self model component, hspace, hspan⟩

section

variable (element : Element) (children : List Child)

theorem leaves_elementDecl (scope : Option String) :
    Leaves origin (StandsFor origin element) (elementDecl element children scope) := by
  refine leaves_next fun declared => ?_
  cases scope.isNone <;>
    · refine leaves_next fun occurs => ?_
      intro before value after heq
      cases heq
      exact @standsFor_push origin element .element _ rfl rfl before

theorem leaves_attributeDecl (scope : Option String) :
    Leaves origin (StandsFor origin element) (attributeDecl element children scope) := by
  refine leaves_next fun declared => leaves_next fun use => ?_
  intro before value after heq
  cases heq
  exact @standsFor_push origin element .attribute _ rfl rfl before

theorem leaves_addType (owner : Option String) (body : TypeBody) :
    Leaves origin (StandsFor origin element)
      (do addType (← typeDef element owner body)) := by
  intro before value after heq
  cases heq
  exact @standsFor_push origin element .type _ rfl rfl before

theorem leaves_simpleType (owner : Option String) :
    Leaves origin (StandsFor origin element) (simpleType element children owner) := by
  refine leaves_next fun body => leaves_next fun derivation => ?_
  exact leaves_addType element owner (.simple derivation)

theorem leaves_complexType (owner : Option String) :
    Leaves origin (StandsFor origin element) (complexType element children owner) := by
  refine leaves_next fun content => ?_
  exact leaves_addType element owner (.complex content (isMixed element))

theorem leaves_attributeGroup (name : String) :
    Leaves origin (StandsFor origin element) (Schema.attributeGroup (.of element) name) := by
  refine leaves_read (leaves_next fun items => ?_)
  intro before value after heq
  cases heq
  exact @standsFor_push origin element .attributeGroup _ rfl rfl before

theorem leaves_group (name : String) :
    Leaves origin (StandsFor origin element) (Schema.group (.of element) name) := by
  refine leaves_read (leaves_next fun particle => ?_)
  intro before value after heq
  cases heq
  exact @standsFor_push origin element .group _ rfl rfl before

theorem leaves_component (name : String) (kind : SymbolKind) :
    Leaves origin (StandsFor origin element) ((Child.of element).component name kind) := by
  have hplaces : (Child.of element).places = placesOf element (element.parts.map Child.of) :=
    places_eq element
  cases kind with
  | element =>
      rw [Child.component, hplaces]
      exact leaves_elementDecl element _ none
  | «attribute» =>
      rw [Child.component, hplaces]
      exact leaves_attributeDecl element _ none
  | type =>
      rw [Child.component, hplaces]
      simp only [placesOf]
      split
      · exact leaves_simpleType element _ none
      · exact leaves_complexType element _ none
  | attributeGroup => exact leaves_attributeGroup element name
  | group => exact leaves_group element name

end

/-! What a child of a root registers. -/

open SymbolTable (Registration)

/-- A registration is that of what an element declares: of a component that is written as the
element, under the name that the element has, owned by nothing. -/
structure Registers (origin : Origin) (model : Model) (element : Element) (call : Registration) :
    Prop where
  kind : (Child.of element).declares? = some call.2.kind
  name : element.attribute? "name" = some call.1
  component : StandsFor origin element model call.2.id
  owned : model.Owns origin.targetSpace none call.2
  titled : model.Titles (some call.1) call.2

theorem StandsFor.mono {element : Element} {model after : Model} {kind : SymbolKind} {id : Id kind}
    (h : StandsFor origin element model id) (hgrows : model.Prefix after) :
    StandsFor origin element after id := by
  obtain ⟨component, hcomponent, hplace⟩ := h
  exact ⟨component, hgrows.component?_of_some hcomponent, hplace⟩

theorem Child.declared_of_none {child : Child} (hkind : child.declares? = none)
    {before after : Model} {named : Option Registration}
    (h : child.declared origin before = .ok (named, after)) : named = none := by
  have hkey := key?_of_declared h
  rw [key?, hkind] at hkey
  exact Option.map_eq_none_iff.mp hkey.symm

theorem Child.declared_of_some {element : Element} {kind : SymbolKind}
    (hkind : (Child.of element).declares? = some kind) {before after : Model}
    {named : Option Registration}
    (h : (Child.of element).declared origin before = .ok (named, after)) :
    ∃ name id, named = some (name, ⟨kind, id⟩) ∧ element.attribute? "name" = some name ∧
      StandsFor origin element after (id : Id kind) := by
  simp only [declared, hkind, run_eq_ok_iff] at h
  obtain ⟨name, between, hname, id, last, hid, heq⟩ := h
  cases heq
  exact ⟨name, id, rfl, attribute?_of_required hname, leaves_component element name kind _ _ _ hid⟩

end Reading

def Xml.Element.declaring (root : Element) : List Element :=
  root.schemaChildren.filter fun child => (Reading.Child.of child).declares?.isSome

namespace Part

open Reading

theorem named_of_declared {part : Part} {origin : Origin} {element : Xml.Element} {last : Model}
    (hchild : part.child = .of element)
    (hread : part.child.declared origin part.before = .ok (part.named, part.after))
    (hgrows : part.after.Prefix last)
    (htop : ∀ name symbol, part.named = some (name, symbol) →
      last.Owns origin.targetSpace none symbol ∧ last.Titles (some name) symbol) :
    (part.named = none ∧ (Child.of element).declares? = none) ∨
      ∃ call, part.named = some call ∧ Registers origin last element call := by
  rw [hchild] at hread
  cases hkind : (Child.of element).declares? with
  | none => exact .inl ⟨Child.declared_of_none hkind hread, rfl⟩
  | some kind =>
      obtain ⟨name, id, hnamed, hname, hstands⟩ := Child.declared_of_some hkind hread
      obtain ⟨howns, htitles⟩ := htop name _ hnamed
      exact .inr ⟨_, hnamed, hkind, hname, hstands.mono hgrows, howns, htitles⟩

theorem registers_of_named {origin : Origin} {last : Model} {elements : List Xml.Element}
    {parts : List Part} (hchildren : parts.map Part.child = elements.map Child.of)
    (h : ∀ part ∈ parts, ∀ element, part.child = .of element →
      (part.named = none ∧ (Child.of element).declares? = none) ∨
        ∃ call, part.named = some call ∧ Registers origin last element call) :
    List.Forall₂ (Registers origin last)
      (elements.filter fun element => (Child.of element).declares?.isSome)
      (parts.filterMap Part.named) := by
  induction parts generalizing elements with
  | nil =>
      cases List.map_eq_nil_iff.mp hchildren.symm
      exact .nil
  | cons part rest ih =>
      cases elements with
      | nil => cases hchildren
      | cons element others =>
          obtain ⟨hchild, hrest⟩ := List.cons.inj hchildren
          have htail := ih hrest fun part hmem => h part (List.mem_cons_of_mem _ hmem)
          rcases h part List.mem_cons_self element hchild with
            ⟨hnone, hkind⟩ | ⟨call, hcall, hregisters⟩
          · rw [List.filter_cons_of_neg (by simp [hkind]), List.filterMap_cons_none hnone]
            exact htail
          · rw [List.filter_cons_of_pos (by simp [hregisters.kind]),
              List.filterMap_cons_some hcall]
            exact .cons hregisters htail

end Part

namespace Schema

theorem registerAll_of_enterAll {schema next : Schema} {parts : List Part}
    (h : schema.enterAll parts = .ok next) :
    schema.symbols.registerAll (parts.filterMap Part.named) = .ok next.symbols := by
  induction parts generalizing schema with
  | nil =>
      cases h
      rfl
  | cons part rest ih =>
      obtain ⟨entered, hentered, hrest⟩ := bind_eq_ok_iff.mp h
      obtain ⟨table, htable, rfl⟩ := enter_eq_ok_iff.mp hentered
      have htail := @ih ⟨_, table, _⟩ hrest
      cases hnamed : part.named with
      | none =>
          rw [hnamed] at htable
          cases htable
          rw [List.filterMap_cons_none hnamed]
          exact htail
      | some call =>
          rw [hnamed] at htable
          rw [List.filterMap_cons_some hnamed]
          exact bind_eq_ok_iff.mpr ⟨table, htable, htail⟩

variable {document : Xml.Document} {id : DocumentId} {label : String} {permissive : Bool}
  {model last : Model} {schema : Schema}

theorem registers_of_read (h : read document id label permissive model = .ok (schema, last)) :
    ∃ calls, List.Forall₂
        (Reading.Registers ⟨id, document, targetSpaceOf document.root, permissive⟩ last)
        document.root.declaring calls ∧
      SymbolTable.registerAll { document := label, permissive := permissive } calls =
        .ok schema.symbols := by
  obtain ⟨_, parts, hchain, hchildren, hentered⟩ := read_eq_ok_iff.mp h
  have hordinary := Part.ordinary_of_children hchildren
  have hsome : Part.Chain.Ordinary parts := fun part hpart =>
    (hordinary part hpart).imp fun _ h => h.1
  obtain ⟨_, hnamed⟩ := hchain.makes hordinary
  refine ⟨parts.filterMap Part.named, ?_, registerAll_of_enterAll hentered⟩
  rw [Reading.schemaParts_eq] at hchildren
  apply Part.registers_of_named hchildren
  intro part hpart element hchild
  have hgrows := (hchain.within hsome hpart).2.2.1
  exact Part.named_of_declared hchild (hchain.read hpart).2 hgrows (hnamed part hpart)

end Schema

namespace SymbolTable

/-- After any registrations, a table holds the first of each kind and name, and a repeated one
fails or is passed over, and changes nothing. The table of a document comes from registering what
the children of its root declare, and nothing else, without a failure. -/
theorem keeps_first_registrations :
    (∀ document permissive calls,
      (built document permissive calls).Keeps calls ∧
        ∀ call : Registration,
          (built document permissive calls).register call.1 call.2 =
            (if call.key ∈ calls.map Registration.key then
              if permissive then .ok (built document permissive calls)
              else .error (.duplicate call.2.kind call.1 document)
            else .ok (built document permissive (calls ++ [call]))) ∧
          (call.key ∈ calls.map Registration.key →
            built document permissive (calls ++ [call]) = built document permissive calls)) ∧
    ∀ document id label permissive model schema last,
      Schema.read document id label permissive model = .ok (schema, last) →
        ∃ calls, List.Forall₂ (Reading.Registers
            ⟨id, document, Schema.targetSpaceOf document.root, permissive⟩ last)
            document.root.declaring calls ∧
          registerAll { document := label, permissive := permissive } calls = .ok schema.symbols ∧
          schema.symbols = built label permissive calls := by
  constructor
  · intro document permissive calls
    refine ⟨keeps_built document permissive calls, fun call => ⟨?_, fun hmem => ?_⟩⟩
    · exact register_built document permissive calls call
    · exact built_repeated document permissive calls hmem
  · intro document id label permissive model schema last h
    obtain ⟨calls, hcalls, hall⟩ := Schema.registers_of_read h
    exact ⟨calls, hcalls, hall, (afterCalls_of_registerAll hall).symm⟩

end SymbolTable

/-! An element that holds another one, and is declared again. -/

namespace Repeated

def text : String :=
  "<schema xmlns=\"http://www.w3.org/2001/XMLSchema\" targetNamespace=\"urn:o\">" ++
    "<element name=\"order\"><complexType><sequence>" ++
    "<element name=\"item\" type=\"string\"/></sequence></complexType></element>" ++
    "<element name=\"order\" type=\"string\"/>" ++
    "<simpleType name=\"order\"><restriction base=\"string\"/></simpleType></schema>"

def symbols : SymbolTable where
  document := "a.xsd"
  permissive := true
  entries := [((.element, "order"), 1), ((.type, "order"), 1)]

def Known (set : SchemaSet) : Prop :=
  (set.document? ⟨0⟩).map SchemaDocument.symbols = some symbols

instance : DecidablePred Known := fun _ =>
  inferInstanceAs (Decidable (_ = _))

theorem exists_alone : ∃ document next, Xml.Document.parse text .strict = .ok document ∧
    Loading.alone document ⟨"a.xsd"⟩ true = .ok next ∧ Known next.set := by
  refine Loading.exists_alone ?_
  decide +kernel

theorem exists_read : ∃ document schema model,
    Xml.Document.parse text .strict = .ok document ∧
      Schema.read document ⟨0⟩ "a.xsd" true {} = .ok (schema, model) ∧
        schema.symbols = symbols := by
  obtain ⟨document, next, hparse, halone, hknown⟩ := exists_alone
  simp only [Loading.alone, bind_eq_ok_iff] at halone
  obtain ⟨⟨schema, model⟩, hread, heq⟩ := halone
  cases heq
  exact ⟨document, schema, model, hparse, hread, Option.some.inj hknown⟩

end Repeated

theorem SymbolTable.keeps_first_registrations_repeated :
    ∃ document schema last calls,
      Xml.Document.parse Repeated.text .strict = .ok document ∧
        Schema.read document ⟨0⟩ "a.xsd" true {} = .ok (schema, last) ∧
        List.Forall₂ (Reading.Registers
          ⟨⟨0⟩, document, Schema.targetSpaceOf document.root, true⟩ last)
          document.root.declaring calls ∧
        built "a.xsd" true calls = Repeated.symbols ∧
        (calls.find? fun call => call.key = (.element, "order")).map Prod.snd =
          some ⟨.element, ⟨1⟩⟩ := by
  obtain ⟨document, schema, last, hparse, hread, hsymbols⟩ := Repeated.exists_read
  obtain ⟨hkept, hregistered⟩ := keeps_first_registrations
  obtain ⟨calls, hcalls, _, hbuilt⟩ := hregistered document _ _ _ _ _ _ hread
  have htable := hbuilt.symm.trans hsymbols
  refine ⟨document, schema, last, calls, hparse, hread, hcalls, htable, ?_⟩
  have hget := (hkept "a.xsd" true calls).1.get? .element "order"
  rw [htable] at hget
  exact hget.symm

end SchemaBinding
