import SchemaBinding.Component.Reading
import SchemaBinding.Proofs.Component.Abreast
import SchemaBinding.Proofs.Component.Unplaced

namespace SchemaBinding

namespace Xml.Element

def nameKeys : List String := ["type", "ref", "base", "itemType"]

/-- What the name under a key stands for. -/
def target? (element : Element) (key : String) : Option (Except Error QName) :=
  (element.attribute? key).map element.bindings.resolve

def members (element : Element) : List (Except Error QName) :=
  (Text.words ((element.attribute? "memberTypes").getD "")).map element.bindings.resolve

def parts (element : Element) : List Element :=
  element.schemaChildren.filter fun child => child.tag != "annotation"

theorem mem_children_of_parts {element child : Element} (h : child ∈ element.parts) :
    child ∈ element.children :=
  List.mem_of_mem_filter (List.mem_of_mem_filter h)

theorem sizeOf_lt_of_parts {element child : Element} (h : child ∈ element.parts) :
    sizeOf child < sizeOf element := by
  have hlt := List.sizeOf_lt_of_mem (mem_children_of_parts h)
  obtain ⟨name, attributes, text, bindings, start, stop, children⟩ := element
  simp only [mk.sizeOf_spec] at hlt ⊢
  omega

/-- Elements that are akin but for their children. -/
structure Resembles (terms : Terms) (element other : Element) : Prop where
  name : element.name = other.name
  plain : ∀ key ∉ "memberTypes" :: nameKeys, element.attribute? key = other.attribute? key
  target : ∀ key ∈ nameKeys, element.target? key = other.target? key
  members : element.members = other.members
  documentation : terms.documented → element.documentation = other.documentation

inductive Akin (terms : Terms) : Element → Element → Prop
  | mk {element other : Element} : element.Resembles terms other →
      List.Forall₂ (Akin terms) element.parts other.parts → Akin terms element other

/-- Elements are akin that a relation holds of which goes on from each element to its parts. -/
theorem akin_of_steps {terms : Terms} {alike : Element → Element → Prop}
    (hsteps : ∀ element other, alike element other →
      element.Resembles terms other ∧ List.Forall₂ alike element.parts other.parts)
    (element other : Element) (h : alike element other) : element.Akin terms other := by
  obtain ⟨hresembles, hparts⟩ := hsteps element other h
  refine .mk hresembles (List.Forall₂.imp ?_
    ((List.forall₂_and_left element.parts other.parts).mpr ⟨fun _ hchild => hchild, hparts⟩))
  rintro child child' ⟨hchild, halike⟩
  have hlt := sizeOf_lt_of_parts hchild
  exact akin_of_steps hsteps child child' halike
termination_by sizeOf element

theorem Resembles.refl (terms : Terms) (element : Element) : element.Resembles terms element where
  name := rfl
  plain _ _ := rfl
  target _ _ := rfl
  members := rfl
  documentation _ := rfl

theorem Akin.refl (terms : Terms) (element : Element) : element.Akin terms element := by
  have hsteps : ∀ element other : Element, element = other →
      element.Resembles terms other ∧ List.Forall₂ Eq element.parts other.parts := by
    rintro element _ rfl
    exact ⟨.refl terms element, List.forall₂_eq_eq_eq ▸ rfl⟩
  exact akin_of_steps hsteps element element rfl

namespace Same

variable {element other : Element}

theorem resembles (h : element.Same other) (terms : Terms) : element.Resembles terms other where
  name := h.name_eq
  plain key _ := h.attribute?_eq key
  target key _ := by rw [target?, h.attribute?_eq, h.bindings_eq, target?]
  members := by rw [Element.members, h.attribute?_eq, h.bindings_eq, Element.members]
  documentation _ := h.documentation_eq

theorem parts (h : element.Same other) :
    List.Forall₂ Same element.parts other.parts := by
  have hschema : List.Forall₂ Same element.schemaChildren other.schemaChildren :=
    List.rel_filter (fun _ _ hchild => hchild.inSchemaSpace_eq.congr_left) h.children
  exact List.rel_filter (fun _ _ hchild => by simp only [hchild.tag_eq]) hschema

theorem akin (h : element.Same other) (terms : Terms) : element.Akin terms other :=
  akin_of_steps (fun _ _ hsame => ⟨hsame.resembles terms, hsame.parts⟩) element other h

end Same

namespace Resembles

variable {terms : Terms} {element other : Element} (h : element.Resembles terms other)

include h

theorem tag_eq : element.tag = other.tag := by
  rw [tag, h.name, tag]

theorem inSchemaSpace_eq : element.inSchemaSpace = other.inSchemaSpace := by
  rw [inSchemaSpace, h.name, inSchemaSpace]

theorem isSchema_eq (tag : String) : element.isSchema tag = other.isSchema tag := by
  rw [isSchema, h.inSchemaSpace_eq, h.tag_eq, isSchema]

end Resembles

namespace Akin

variable {terms : Terms} {element other : Element} (h : element.Akin terms other)

include h

theorem resembles : element.Resembles terms other := by
  cases h with
  | mk hresembles _ => exact hresembles

theorem parts : List.Forall₂ (Akin terms) element.parts other.parts := by
  cases h with
  | mk _ hparts => exact hparts

end Akin

end Xml.Element

namespace Reading

open Xml (Element)

theorem qualified?_eq (element : Element) (key : String) :
    qualified? element key =
      match element.target? key with
      | none => return none
      | some result => return some (← liftM result) := by
  rw [qualified?, Element.target?]
  cases element.attribute? key with
  | none => rfl
  | some name =>
      rfl

theorem mapM_qualified_eq (element : Element) (names : List String) :
    names.mapM (qualified element) =
      (names.map element.bindings.resolve).mapM fun result => liftM result := by
  induction names with
  | nil => rfl
  | cons name rest ih => rw [List.mapM_cons, List.map_cons, List.mapM_cons, ih, qualified]

theorem facetsOf_eq_parts (element : Element) :
    facetsOf element =
      (element.parts.filter fun child => !otherTags.contains child.tag).foldl
        (fun facets child =>
          (facets.set? child.tag ((child.attribute? "value").getD "")).getD facets) {} := by
  rw [facetsOf, Element.parts, List.filter_filter]
  congr 1
  apply List.filter_congr
  intro child _
  by_cases htag : child.tag = "annotation"
  · rw [htag]
    rfl
  · simp [htag]

theorem facetsOf_akin {terms : Terms} {element other : Element} (h : element.Akin terms other) :
    facetsOf element = facetsOf other := by
  rw [facetsOf_eq_parts, facetsOf_eq_parts]
  have hparts : List.Forall₂ (Element.Akin terms)
      (element.parts.filter fun child => !otherTags.contains child.tag)
      (other.parts.filter fun child => !otherTags.contains child.tag) :=
    List.rel_filter (fun _ _ hchild => by simp only [hchild.resembles.tag_eq]) h.parts
  generalize ({} : Facets) = facets
  generalize element.parts.filter _ = children at hparts ⊢
  generalize other.parts.filter _ = others at hparts ⊢
  induction hparts generalizing facets with
  | nil => rfl
  | cons hchild _ ih =>
      rw [List.foldl_cons, List.foldl_cons, hchild.resembles.tag_eq,
        hchild.resembles.plain "value" (by decide)]
      exact ih _

/-! Children that are no annotations. -/

namespace Child

def of (element : Element) : Child :=
  ⟨element, Reading.places element⟩

def counts (child : Child) : Bool :=
  child.tag != "annotation"

theorem tag_of_not_counts {child : Child} (h : child.counts = false) :
    child.tag = "annotation" := by
  simpa [counts] using h

theorem counts_of_hasTag {child : Child} {tags : List String} (htags : "annotation" ∉ tags)
    (h : child.hasTag tags = true) : child.counts = true := by
  simp only [hasTag, List.contains_iff_mem] at h
  simp only [counts, bne_iff_ne]
  rintro heq
  exact htags (heq ▸ h)

end Child

theorem schemaParts_eq (elements : List Element) :
    schemaParts elements = (elements.filter Element.inSchemaSpace).map Child.of := by
  induction elements with
  | nil => rw [schemaParts, List.filter_nil, List.map_nil]
  | cons element rest ih =>
      rw [schemaParts, List.filter_cons, ih]
      split <;> rfl

theorem exists_of_mem_schemaParts {elements : List Element} {child : Child}
    (h : child ∈ schemaParts elements) : ∃ element ∈ elements, child = .of element := by
  rw [schemaParts_eq] at h
  obtain ⟨element, helement, heq⟩ := List.mem_map.mp h
  exact ⟨element, (List.mem_filter.mp helement).1, heq.symm⟩

theorem filter_schemaParts (element : Element) :
    (schemaParts element.children).filter Child.counts = element.parts.map Child.of := by
  rw [schemaParts_eq, List.filter_map]
  rfl

section

variable (children : List Child)

theorem find?_counts {tags : List String} (htags : "annotation" ∉ tags) :
    (children.filter Child.counts).find? (Child.hasTag tags) =
      children.find? (Child.hasTag tags) := by
  rw [List.find?_filter]
  congr 1
  funext child
  rw [Bool.eq_iff_iff]
  simpa using Child.counts_of_hasTag htags

theorem filter_counts {tags : List String} (htags : "annotation" ∉ tags) :
    (children.filter Child.counts).filter (Child.hasTag tags) =
      children.filter (Child.hasTag tags) := by
  rw [List.filter_filter]
  congr 1
  funext child
  rw [Bool.eq_iff_iff]
  simpa using Child.counts_of_hasTag htags

theorem findSome?_counts {α : Type} (found : String → Option α)
    (hfound : found "annotation" = none) :
    ((children.filter Child.counts).findSome? fun child => (found child.tag).map (child, ·)) =
      children.findSome? fun child => (found child.tag).map (child, ·) := by
  induction children with
  | nil => rfl
  | cons child rest ih =>
      rw [List.filter_cons, List.findSome?_cons]
      cases hcounts : child.counts with
      | true => rw [if_pos rfl, List.findSome?_cons, ih]
      | false =>
          rw [Child.tag_of_not_counts hcounts, hfound]
          exact ih

theorem all_counts : (children.filter Child.counts).all (Child.hasTag ["annotation"]) =
    children.all (Child.hasTag ["annotation"]) := by
  rw [List.all_filter]
  congr 1
  funext child
  cases hcounts : child.counts with
  | true => rfl
  | false => simp [Child.hasTag, Child.tag_of_not_counts hcounts]

theorem mapM_counts {α β : Type} {work : Child → Reading (Option α)}
    (hwork : ∀ child : Child, child.tag = "annotation" → work child = pure none)
    (next : List α → Reading β) :
    ((children.filter Child.counts).mapM work >>= fun items => next (items.filterMap id)) =
      children.mapM work >>= fun items => next (items.filterMap id) := by
  induction children generalizing next with
  | nil => rfl
  | cons child rest ih =>
      rw [List.filter_cons, List.mapM_cons]
      cases hcounts : child.counts with
      | false =>
          rw [hwork child (Child.tag_of_not_counts hcounts)]
          simpa using ih next
      | true =>
          rw [if_pos rfl, List.mapM_cons]
          simp only [bind_assoc, pure_bind]
          congr 1
          funext item
          cases item with
          | none => simpa using ih next
          | some value => simpa using ih fun items => next (value :: items)

theorem foldlM_counts {α : Type} {step : α → Child → Reading α}
    (hstep : ∀ value (child : Child), child.tag = "annotation" → step value child = pure value)
    (start : α) :
    (children.filter Child.counts).foldlM step start = children.foldlM step start := by
  rw [List.foldlM_filter]
  congr 1
  funext value child
  split
  case isTrue => rfl
  case isFalse hcounts =>
      exact (hstep value child (Child.tag_of_not_counts (by simpa using hcounts))).symm

theorem attributeItems_counts (scope : Option String) :
    attributeItems (children.filter Child.counts) scope = attributeItems children scope := by
  apply mapM_counts
  intro child htag
  rw [attributeItem?, htag]
  rfl

theorem groupLike?_annotation {child : Child} (htag : child.tag = "annotation")
    (scope : Option String) : groupLike? scope child = pure none := by
  unfold groupLike?
  rw [htag]
  rfl

theorem modelGroup_counts (element : Element) (type : ModelType) (scope : Option String) :
    modelGroup element (children.filter Child.counts) type scope =
      modelGroup element children type scope := by
  unfold modelGroup
  congr 1
  funext occurs
  refine mapM_counts children ?_ fun particles => pure (Particle.model type occurs particles)
  intro child htag
  rw [particle?, if_neg (by rw [htag]; decide)]
  exact groupLike?_annotation htag scope

theorem container_counts (element : Element) (scope : Option String) :
    container element (children.filter Child.counts) scope = container element children scope := by
  unfold container
  rw [attributeItems_counts, foldlM_counts]
  intro found child htag
  rw [singleGroup, groupLike?_annotation htag, pure_bind]

theorem declaration_counts (element : Element) (scope : Option String) :
    declaration element (children.filter Child.counts) scope =
      declaration element children scope := by
  simp only [declaration, find?_counts children (show "annotation" ∉ typeTags by decide)]

theorem simpleBody_counts (element : Element) (owner : Option String) :
    simpleBody element (children.filter Child.counts) owner =
      simpleBody element children owner := by
  have htags : "annotation" ∉ ["simpleType"] := by decide
  simp only [simpleBody, restrictionBody, listBody, unionBody, find?_counts children htags,
    filter_counts children htags]

theorem derivation_counts (element : Element) (method : DerivationMethod) (content : String)
    (owner : Option String) :
    derivation element (children.filter Child.counts) method content owner =
      derivation element children method content owner := by
  simp only [derivation, simpleRestriction, container_counts,
    find?_counts children (show "annotation" ∉ ["simpleType"] by decide)]

theorem simpleType_counts (element : Element) (owner : Option String) :
    simpleType element (children.filter Child.counts) owner =
      simpleType element children owner := by
  simp only [simpleType,
    find?_counts children (show "annotation" ∉ ["restriction", "list", "union"] by decide)]

theorem complexType_counts (element : Element) (owner : Option String) :
    complexType element (children.filter Child.counts) owner =
      complexType element children owner := by
  simp only [complexType, complexContent, container_counts, all_counts,
    find?_counts children (show "annotation" ∉ ["simpleContent"] by decide),
    find?_counts children (show "annotation" ∉ ["complexContent"] by decide)]

/-- An element is read as if annotations were no children of it. -/
theorem placesOf_counts (element : Element) :
    placesOf element (children.filter Child.counts) = placesOf element children := by
  have hderived : derivedBy? (children.filter Child.counts) = derivedBy? children :=
    findSome?_counts children DerivationMethod.ofTag? rfl
  have hgroup := findSome?_counts children ModelType.ofTag? rfl
  simp only [placesOf, Places.mk.injEq]
  refine ⟨?_, ?_, ?_, ?_, ?_, ?_, ?_, ?_, ?_⟩
  · funext owner
    rw [simpleType_counts, complexType_counts]
  · funext scope
    rw [elementDecl, declaration_counts, elementDecl]
  · funext scope
    rw [attributeDecl, declaration_counts, attributeDecl]
  · funext type scope
    exact modelGroup_counts children element type scope
  · funext scope
    rw [firstModelGroup, hgroup, firstModelGroup]
  · funext scope
    exact attributeItems_counts children scope
  · funext owner
    exact simpleBody_counts children element owner
  · funext owner
    rw [content, hderived, content]
  · funext method content owner
    exact derivation_counts children element method content owner

end

theorem places_eq (element : Element) :
    places element = placesOf element (element.parts.map Child.of) := by
  rw [← filter_schemaParts, placesOf_counts]
  obtain ⟨name, attributes, text, bindings, start, stop, children⟩ := element
  rw [places]

end Reading

end SchemaBinding
