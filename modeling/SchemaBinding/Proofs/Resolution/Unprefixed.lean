import SchemaBinding.Proofs.Loading.Order
import SchemaBinding.Proofs.Loading.Provenance
import SchemaBinding.Proofs.Loading.Single
import SchemaBinding.Proofs.Resolution.Reference
import SchemaBinding.Proofs.Xml.Scope

namespace SchemaBinding

open Relation (ReflTransGen)

theorem Schema.targetSpaceOf_eq_none_iff {root : Xml.Element} : targetSpaceOf root = none ↔
    ∀ space, root.attribute? "targetNamespace" = some space → space = "" := by
  simp [targetSpaceOf, Option.filter_eq_none_iff]

theorem Schema.targetSpaceOf_ne_empty (root : Xml.Element) : targetSpaceOf root ≠ some "" := by
  intro h
  have hkept := (Option.filter_eq_some_iff.mp h).2
  cases hkept

namespace SchemaSet

/-- The reference leads to something, as the document of the span sees it. -/
def Resolves (set : SchemaSet) (reference : Reference) (span : Span) : Prop :=
  match reference with
  | ⟨.type, name⟩ => ∃ target, set.resolveTypeName name span = .ok target
  | ⟨kind, name⟩ => ∃ id, set.resolve kind name span = .ok id

/-- A document without a target namespace, or with an empty one, registers a component under a
local name. -/
def RegistersUnspaced (set : SchemaSet) (kind : SymbolKind) (localName : String)
    (number : DocumentId) : Prop :=
  ∃ document, set.document? number = some document ∧
    (∀ space, document.document.root.attribute? "targetNamespace" = some space → space = "") ∧
    ∃ id, (localName, id) ∈ document.symbols.symbols kind

variable {tree : FileTree} {roots : List Path} {limits : Limits} {permissive : Bool}
  {set : SchemaSet}

theorem resolves_iff_lookup? (h : load tree roots limits permissive = .ok set)
    {reference : Reference} {span : Span} (hspace : reference.name.space ≠ some xsdNamespace) :
    set.Resolves reference span ↔
      ∃ id, set.lookup? reference.kind reference.name span.document = some id := by
  obtain ⟨kind, name⟩ := reference
  have hother : name.inNamespace (some xsdNamespace) = false := beq_false_of_ne hspace
  cases kind with
  | type =>
      simp only [Resolves, resolveTypeName, hother, Bool.false_eq_true, if_false, bind_eq_ok_iff,
        resolve_eq_ok_iff]
      constructor
      · rintro ⟨target, id, hid, _⟩
        exact ⟨id, hid⟩
      · rintro ⟨id, hid⟩
        have hrange := index_lt_of_lookup? (inRange_of_load h) (fun _ => distinct_of_load h) hid
        obtain ⟨target, htarget, _⟩ := exists_typedBy hrange
        exact ⟨target, id, hid, htarget⟩
  | element => exact exists_congr fun _ => resolve_eq_ok_iff
  | «attribute» => exact exists_congr fun _ => resolve_eq_ok_iff
  | attributeGroup => exact exists_congr fun _ => resolve_eq_ok_iff
  | group => exact exists_congr fun _ => resolve_eq_ok_iff

theorem exists_lookup?_iff (h : load tree roots limits permissive = .ok set)
    {kind : SymbolKind} {name : QName} {start : DocumentId} (hstart : set.Loaded start) :
    (∃ id, set.lookup? kind name start = some id) ↔
      ∃ number, ReflTransGen (set.LinksTo SchemaDocument.links) start number ∧
        ∃ id, set.Registers kind name number id := by
  have horder : set.VisitOrder SchemaDocument.links start (set.visible start) :=
    visitOrder_walk (closed_links_of_load h) hstart
  have hfirst : ∀ id, set.lookup? kind name start = some id ↔
      set.RegistersFirst kind name (set.visible start) id := fun _ =>
    findSome?_declaredIn?_iff fun _ => distinct_of_load h
  simp only [hfirst, exists_registersFirst_iff, horder.mem_iff]

theorem targetSpace_of_load (h : load tree roots limits permissive = .ok set)
    {number : DocumentId} {document : SchemaDocument}
    (hdocument : set.document? number = some document) :
    document.targetSpace = Schema.targetSpaceOf document.document.root := by
  obtain ⟨layout, hlaid⟩ := exists_layout_of_load h
  exact hlaid.targetSpace_eq hdocument

theorem exists_registers_none_iff (h : load tree roots limits permissive = .ok set)
    {kind : SymbolKind} {localName : String} {number : DocumentId} :
    (∃ id, set.Registers kind ⟨none, localName⟩ number id) ↔
      set.RegistersUnspaced kind localName number := by
  constructor
  · rintro ⟨id, document, hdocument, hspace, hmem⟩
    rw [targetSpace_of_load h hdocument] at hspace
    exact ⟨document, hdocument, Schema.targetSpaceOf_eq_none_iff.mp hspace, id, hmem⟩
  · rintro ⟨document, hdocument, hspace, id, hmem⟩
    refine ⟨id, document, hdocument, ?_, hmem⟩
    rw [targetSpace_of_load h hdocument]
    exact Schema.targetSpaceOf_eq_none_iff.mpr hspace

theorem not_registers_empty (h : load tree roots limits permissive = .ok set) {kind : SymbolKind}
    {localName : String} {number : DocumentId} {id : Id kind} :
    ¬ set.Registers kind ⟨some "", localName⟩ number id := by
  rintro ⟨document, hdocument, hspace, _⟩
  rw [targetSpace_of_load h hdocument] at hspace
  exact Schema.targetSpaceOf_ne_empty _ hspace

theorem not_resolves_empty (h : load tree roots limits permissive = .ok set) {kind : SymbolKind}
    {localName : String} {span : Span} (hspan : set.Loaded span.document) :
    ¬ set.Resolves ⟨kind, ⟨some "", localName⟩⟩ span := by
  have hspace : (some "" : Option String) ≠ some xsdNamespace := by decide
  rw [resolves_iff_lookup? h hspace, exists_lookup?_iff h hspan]
  rintro ⟨other, _, id, hregisters⟩
  exact not_registers_empty h hregisters

theorem placed_of_load (h : load tree roots limits permissive = .ok set) {number : DocumentId}
    {document : SchemaDocument} (hdocument : set.document? number = some document) :
    ∃ tokens, Xml.tokensOf document.document.source = .ok tokens ∧
      document.document.root.Placed tokens := by
  obtain ⟨_, ⟨_, ⟨text, _, _, hparse⟩, _⟩, _⟩ :=
    (closureOf_of_load h).holds document (Array.mem_of_getElem? hdocument)
  obtain ⟨rfl, hroot, _⟩ := Xml.Document.parse_eq_ok_iff.mp hparse
  exact Xml.placed_of_readRoot hroot

/-- A name without a prefix leads to what the documents without a target namespace that its own
document sees register under it, if no tag around it declares a default namespace; and to nothing
if the nearest declaration is an empty one. The references of the components are written so, in
the document that the component is in. -/
theorem unprefixed_resolves_iff (h : load tree roots limits permissive = .ok set) :
    (∀ number document element written localName, set.document? number = some document →
      document.document.root.Inside element →
      QName.split (Text.trim written) = (none, localName) →
        ∃ tokens tags space, Xml.tokensOf document.document.source = .ok tokens ∧
          element.StandsIn tokens tags ∧ Xml.InEffect tags space ∧
          element.bindings.resolve written = .ok ⟨space, localName⟩ ∧
          ∀ (kind : SymbolKind) (span : Span), span.document = number →
            (space = none → (set.Resolves ⟨kind, ⟨space, localName⟩⟩ span ↔
              ∃ other, ReflTransGen (set.LinksTo SchemaDocument.links) number other ∧
                set.RegistersUnspaced kind localName other)) ∧
            (space = some "" → ¬ set.Resolves ⟨kind, ⟨space, localName⟩⟩ span)) ∧
    ∀ (kind : SymbolKind) (id : Id kind) (component : Component kind),
      set.model.component? id = some component →
        ∃ number document, set.document? number = some document ∧
          (∀ other ∈ component.mentions.documents, other = number) ∧
          ∀ reference ∈ component.references, document.document.root.Carries reference := by
  constructor
  · intro number document element written localName hdocument hinside hwritten
    obtain ⟨tokens, htokens, hplaced⟩ := placed_of_load h hdocument
    obtain ⟨tags, hstands, heffect⟩ := hplaced element hinside
    have hresolve : element.bindings.resolve written =
        .ok ⟨element.bindings.defaultSpace, localName⟩ := by
      rw [Bindings.resolve, hwritten]
    refine ⟨tokens, tags, _, htokens, hstands, heffect, hresolve, ?_⟩
    intro kind span hspan
    have hstart : set.Loaded span.document := ⟨document, hspan ▸ hdocument⟩
    constructor
    · intro hnone
      have hspace : element.bindings.defaultSpace ≠ some xsdNamespace := by
        rw [hnone]
        nofun
      rw [resolves_iff_lookup? h hspace, exists_lookup?_iff h hstart, hspan, hnone]
      simp only [exists_registers_none_iff h]
    · intro hempty
      rw [hempty]
      exact not_resolves_empty h hstart
  · intro kind id component hcomponent
    obtain ⟨number, document, hdocument, hstems⟩ := stems_of_load h hcomponent
    exact ⟨number, document, hdocument, hstems.placed, hstems.carried⟩

end SchemaSet

/-! A schema without a target namespace that takes the default namespace back. -/

namespace Undeclared

def text : String :=
  "<xs:schema xmlns:xs=\"http://www.w3.org/2001/XMLSchema\" xmlns=\"\">" ++
    "<xs:complexType name=\"Item\"><xs:sequence/></xs:complexType>" ++
    "<xs:element name=\"item\" type=\"Item\"/></xs:schema>"

def tree : FileTree :=
  ⟨[(⟨.above 0, ["a.xsd"]⟩, .file (.text text))]⟩

def root : Path := ⟨"a.xsd"⟩

def item : Reference := ⟨.type, ⟨some "", "Item"⟩⟩

def Declares (document : SchemaDocument) : Prop :=
  document.document.root.attribute? "targetNamespace" = none ∧
    (∃ entry ∈ document.symbols.symbols .type, entry.1 = "Item") ∧
    ∃ element ∈ document.document.root.children, element.attribute? "type" = some "Item" ∧
      element.bindings.defaultSpace = some ""

instance : DecidablePred Declares := fun _ =>
  inferInstanceAs (Decidable (_ ∧ _))

def Known (set : SchemaSet) : Prop :=
  (set.document? ⟨0⟩).map (fun document => decide (Declares document)) = some true ∧
    (set.model.element? ⟨0⟩).map (fun element =>
      (element.declaration, element.span.document)) =
        some (.named "item" (some (.named item.name)), ⟨0⟩)

instance : DecidablePred Known := fun _ =>
  inferInstanceAs (Decidable (_ ∧ _))

theorem exists_load : ∃ set, SchemaSet.load tree [root] .strict false = .ok set ∧ Known set := by
  refine SchemaSet.exists_load_single ?_ ?_ ?_ <;> decide +kernel

namespace Known

variable {set : SchemaSet} (h : Known set)

include h

theorem exists_document : ∃ document, set.document? ⟨0⟩ = some document ∧ Declares document := by
  obtain ⟨document, hdocument, hdeclares⟩ := Option.map_eq_some_iff.mp h.1
  exact ⟨document, hdocument, of_decide_eq_true hdeclares⟩

theorem exists_element : ∃ declared, set.model.element? ⟨0⟩ = some declared ∧
    @Component.references .element declared = [item] ∧ declared.span.document = ⟨0⟩ := by
  obtain ⟨declared, hdeclared, heq⟩ := Option.map_eq_some_iff.mp h.2
  obtain ⟨hdeclaration, hspan⟩ := Prod.mk.inj heq
  exact ⟨declared, hdeclared, congrArg (Declaration.references .element) hdeclaration, hspan⟩

end Known

end Undeclared

open Undeclared

/-- The one document registers the type and sees itself, and yet the type of the element leads to
nothing. -/
theorem SchemaSet.unresolved_once_undeclared :
    ∃ set document element tokens tags declared, load tree [root] .strict false = .ok set ∧
      set.document? ⟨0⟩ = some document ∧ document.document.root.Inside element ∧
      element.attribute? "type" = some "Item" ∧
      Xml.tokensOf document.document.source = .ok tokens ∧ element.StandsIn tokens tags ∧
      Xml.InEffect tags (some "") ∧
      set.RegistersUnspaced .type "Item" ⟨0⟩ ∧
      set.model.element? ⟨0⟩ = some declared ∧
      @Component.references .element declared = [item] ∧ declared.span.document = ⟨0⟩ ∧
      ¬ set.Resolves item declared.span := by
  obtain ⟨set, hload, hknown⟩ := exists_load
  obtain ⟨document, hdocument, hunspaced, ⟨⟨_, id⟩, hid, rfl⟩, element, hchild, htype, hdefault⟩ :=
    hknown.exists_document
  obtain ⟨declared, hdeclared, hitem, hspan⟩ := hknown.exists_element
  have hinside : document.document.root.Inside element := .child .self hchild
  obtain ⟨tokens, htokens, hplaced⟩ := placed_of_load hload hdocument
  obtain ⟨tags, hstands, heffect⟩ := hplaced element hinside
  refine ⟨set, document, element, tokens, tags, declared, hload, hdocument, hinside, htype, htokens,
    hstands, hdefault ▸ heffect, ⟨document, hdocument, ?_, id, hid⟩, hdeclared, hitem, hspan, ?_⟩
  · intro space hspace
    cases hunspaced.symm.trans hspace
  · exact not_resolves_empty hload ⟨document, hspan ▸ hdocument⟩

theorem SchemaSet.unprefixed_resolves_iff_undeclared :
    ∃ set document, load tree [root] .strict false = .ok set ∧ set.document? ⟨0⟩ = some document ∧
      (∃ element ∈ document.document.root.children, ∃ tokens tags space,
        Xml.tokensOf document.document.source = .ok tokens ∧ element.StandsIn tokens tags ∧
          Xml.InEffect tags space ∧ element.bindings.resolve "Item" = .ok ⟨space, "Item"⟩ ∧
          ∀ (kind : SymbolKind) (span : Span), span.document = ⟨0⟩ →
            (space = none → (set.Resolves ⟨kind, ⟨space, "Item"⟩⟩ span ↔
              ∃ other, ReflTransGen (set.LinksTo SchemaDocument.links) ⟨0⟩ other ∧
                set.RegistersUnspaced kind "Item" other)) ∧
            (space = some "" → ¬ set.Resolves ⟨kind, ⟨space, "Item"⟩⟩ span)) ∧
      ∃ number found, set.document? number = some found ∧
        found.document.root.Carries item := by
  obtain ⟨set, hload, hknown⟩ := exists_load
  obtain ⟨document, hdocument, _, _, element, hchild, _⟩ := hknown.exists_document
  obtain ⟨declared, hdeclared, hitem, _⟩ := hknown.exists_element
  obtain ⟨hwritten, hreferences⟩ := unprefixed_resolves_iff hload
  obtain ⟨number, found, hfound, _, hcarries⟩ := hreferences .element ⟨0⟩ declared hdeclared
  have hmem : item ∈ @Component.references .element declared := by
    rw [hitem]
    exact List.mem_singleton_self item
  exact ⟨set, document, hload, hdocument,
    ⟨element, hchild, hwritten ⟨0⟩ document element "Item" "Item" hdocument (.child .self hchild)
      (by decide +kernel)⟩, number, found, hfound, hcarries item hmem⟩

end SchemaBinding
