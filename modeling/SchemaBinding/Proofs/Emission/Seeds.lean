import SchemaBinding.Proofs.Emission.Paired

namespace SchemaBinding

open Relation (ReflTransGen)
open Sink (GeneratedFile)

namespace Emission

variable {set : SchemaSet} {options : Options}

/-- A document from whose declarations a run starts. -/
def Begins (set : SchemaSet) (options : Options) (id : DocumentId) : Prop :=
  set.Loaded id ∧
    (options.recursive = true ∨ ∃ root ∈ set.roots, ReflTransGen set.Includes root id)

/-- What a run starts from when it starts from a document. -/
inductive Seed.DeclaredIn (set : SchemaSet) (options : Options) (document : SchemaDocument) :
    Seed → Prop
  | element {name : String} {id : ElementId} :
      document.symbols.get? .element name = some id → DeclaredIn set options document (.element id)
  | type {name : String} {id : TypeId} : options.recursive = true →
      document.symbols.get? .type name = some id → isComplex set id = true →
        DeclaredIn set options document (.type id)

theorem mem_elementSeeds {document : SchemaDocument} (hdistinct : document.symbols.Distinct)
    {seed : Seed} : seed ∈ elementSeeds document ↔
      ∃ name id, document.symbols.get? .element name = some id ∧ seed = .element id := by
  simp only [elementSeeds, List.mem_map, hdistinct.get?_eq_some_iff]
  constructor
  · rintro ⟨⟨name, id⟩, hentry, rfl⟩
    exact ⟨name, id, hentry, rfl⟩
  · rintro ⟨name, id, hentry, rfl⟩
    exact ⟨(name, id), hentry, rfl⟩

theorem mem_typeSeeds {document : SchemaDocument} (hdistinct : document.symbols.Distinct)
    {seed : Seed} : seed ∈ typeSeeds set document ↔
      ∃ name id, document.symbols.get? .type name = some id ∧ isComplex set id = true ∧
        seed = .type id := by
  simp only [typeSeeds, List.mem_map, List.mem_filter, hdistinct.get?_eq_some_iff]
  constructor
  · rintro ⟨⟨name, id⟩, ⟨hentry, hcomplex⟩, rfl⟩
    exact ⟨name, id, hentry, hcomplex, rfl⟩
  · rintro ⟨name, id, hentry, hcomplex, rfl⟩
    exact ⟨(name, id), ⟨hentry, hcomplex⟩, rfl⟩

theorem declaredIn_iff {document : SchemaDocument} (hdistinct : document.symbols.Distinct)
    {seed : Seed} : seed.DeclaredIn set options document ↔
      seed ∈ elementSeeds document ∨ options.recursive = true ∧ seed ∈ typeSeeds set document := by
  rw [mem_elementSeeds hdistinct, mem_typeSeeds hdistinct]
  constructor
  · intro h
    cases h with
    | element hget => exact .inl ⟨_, _, hget, rfl⟩
    | type hrecursive hget hcomplex => exact .inr ⟨hrecursive, _, _, hget, hcomplex, rfl⟩
  · rintro (⟨name, id, hget, rfl⟩ | ⟨hrecursive, name, id, hget, hcomplex, rfl⟩)
    · exact .element hget
    · exact .type hrecursive hget hcomplex

/-- The seeds are what is declared in the documents that a run begins with. -/
theorem mem_seeds_iff_declaredIn
    (hdistinct : ∀ document ∈ set.documents, document.symbols.Distinct) {seed : Seed} :
    seed ∈ seeds set options ↔ ∃ id document, set.document? id = some document ∧
      Begins set options id ∧ seed.DeclaredIn set options document := by
  have hiff : ∀ {id document}, set.document? id = some document →
      (seed.DeclaredIn set options document ↔ seed ∈ elementSeeds document ∨
        options.recursive = true ∧ seed ∈ typeSeeds set document) :=
    fun hfound => declaredIn_iff (hdistinct _ (Array.mem_of_getElem? hfound))
  unfold seeds
  split
  case isTrue hrecursive =>
      simp only [List.mem_flatMap, Array.mem_toList_iff, List.mem_append]
      constructor
      · rintro ⟨document, hdocument, hseed⟩
        obtain ⟨index, hindex⟩ := Array.mem_iff_getElem?.mp hdocument
        have hfound : set.document? ⟨index⟩ = some document := hindex
        refine ⟨⟨index⟩, document, hfound, ⟨⟨document, hfound⟩, .inl hrecursive⟩, ?_⟩
        exact (hiff hfound).mpr (hseed.imp_right fun htype => ⟨hrecursive, htype⟩)
      · rintro ⟨id, document, hfound, _, hdeclared⟩
        exact ⟨document, Array.mem_of_getElem? hfound,
          ((hiff hfound).mp hdeclared).imp_right And.right⟩
  case isFalse hrecursive =>
      simp only [List.mem_flatMap, List.mem_filterMap, SchemaSet.mem_includeClosure_iff]
      constructor
      · rintro ⟨document, ⟨id, ⟨root, hroot, hloaded, hreach⟩, hfound⟩, hseed⟩
        exact ⟨id, document, hfound, ⟨hloaded, .inr ⟨root, hroot, hreach⟩⟩,
          (hiff hfound).mpr (.inl hseed)⟩
      · rintro ⟨id, document, hfound, ⟨hloaded, hbegins⟩, hdeclared⟩
        obtain ⟨root, hroot, hreach⟩ := hbegins.resolve_left hrecursive
        have hseed := ((hiff hfound).mp hdeclared).resolve_right fun htype => hrecursive htype.1
        exact ⟨document, ⟨id, ⟨root, hroot, hloaded, hreach⟩, hfound⟩, hseed⟩

section

variable {first second : SchemaSet} {setting setting' : Setting} {roots roots' : List Path}
  {location : Location}

theorem exists_begins_of_place (hrecursive : options.recursive = true) {id : DocumentId}
    (hplace : first.location? id = some location) (hmem : location ∈ second.locations) :
    ∃ id', first.Alongside second id id' ∧ Begins second options id' := by
  obtain ⟨index, hindex⟩ := List.getElem?_of_mem hmem
  have hplace' : second.location? ⟨index⟩ = some location := hindex
  obtain ⟨document, hdocument, _⟩ := SchemaSet.location?_eq_some_iff.mp hplace'
  exact ⟨⟨index⟩, ⟨location, hplace, hplace'⟩, ⟨document, hdocument⟩, .inl hrecursive⟩

theorem exists_begins_of_root (h : first.ClosureOf setting roots)
    (h' : second.ClosureOf setting' roots')
    (hlinks : ∀ location ∈ first.locations, setting.links location = setting'.links location)
    {root id : DocumentId} (hplace : first.location? root = some location)
    (hmem : location ∈ rootLocations roots') (hreach : ReflTransGen first.Includes root id) :
    ∃ id', first.Alongside second id id' ∧ Begins second options id' := by
  have hroots : some location ∈ second.roots.map second.location? := by
    rw [h'.roots]
    exact List.mem_map_of_mem (List.mem_eraseDups.mpr hmem)
  obtain ⟨root', hroot', hplace'⟩ := List.mem_map.mp hroots
  have halike := h.linksAlike_includes h' hlinks
  obtain ⟨id', halong, hreach'⟩ :=
    SchemaSet.exists_alike_of_leads halike ⟨location, hplace, hplace'⟩ hreach
  obtain ⟨_, document, _, hdocument, _⟩ := halike id id' halong
  exact ⟨id', halong, ⟨document, hdocument⟩, .inr ⟨root', hroot', hreach'⟩⟩

end

end Emission

open Emission

namespace SchemaSet.Paired

variable {pairing : Pairing} {first second : SchemaSet} (h : first.Paired pairing second)

include h

theorem isComplex_eq {a b : TypeId} (hpaired : pairing.id a b) :
    isComplex first a = isComplex second b := by
  obtain ⟨type, type', htype, htype', hmatches⟩ := h.exists_type hpaired
  simp only [isComplex, htype, htype', Option.map_some, Option.getD_some, hmatches.isComplex_eq]

theorem exists_declaredIn {options : Options} {document document' : SchemaDocument}
    (hnames : ∀ kind name, Option.Rel pairing.id (document.symbols.get? kind name)
      (document'.symbols.get? kind name)) {seed : Seed}
    (hseed : seed.DeclaredIn first options document) :
    ∃ seed' : Seed, seed'.DeclaredIn second options document' ∧ seed.Matches pairing seed' := by
  cases hseed with
  | @element name id hget =>
      have hname := hnames .element name
      rw [hget] at hname
      generalize hget' : document'.symbols.get? .element name = found at hname
      cases hname with
      | some hpaired => exact ⟨_, .element hget', .element hpaired⟩
  | @type name id hrecursive hget hcomplex =>
      have hname := hnames .type name
      rw [hget] at hname
      generalize hget' : document'.symbols.get? .type name = found at hname
      cases hname with
      | some hpaired =>
          rw [h.isComplex_eq hpaired] at hcomplex
          exact ⟨_, .type hrecursive hget' hcomplex, .type hpaired⟩

end SchemaSet.Paired

namespace Emission

/-- Each seed of a set matches a seed of some set that it is paired with. -/
def Traced (first : SchemaSet) (options : Options) (kin : SchemaSet → Pairing → Prop) : Prop :=
  ∀ seed ∈ seeds first options, ∃ second pairing, kin second pairing ∧ pairing.documented ∧
    first.Paired pairing second ∧ ∃ seed' ∈ seeds second options, seed.Matches pairing seed'

namespace Traced

variable {first : SchemaSet} {options : Options} {kin : SchemaSet → Pairing → Prop}
  (h : Traced first options kin)

include h

theorem exists_isReached {a : TypeId} (ha : IsReached first options a) :
    ∃ second pairing, kin second pairing ∧ pairing.documented ∧ first.Paired pairing second ∧
      ∃ b, pairing.id a b ∧ IsReached second options b := by
  obtain ⟨seed, hseed, hleads⟩ := isReached_iff.mp ha
  obtain ⟨second, pairing, hkin, hdocumented, hpaired, seed', hseed', hmatches⟩ := h seed hseed
  obtain ⟨b, hb, hleads'⟩ := hpaired.exists_of_leads hmatches hleads
  exact ⟨second, pairing, hkin, hdocumented, hpaired, b, hb,
    isReached_iff.mpr ⟨seed', hseed', hleads'⟩⟩

theorem succeeds (hkin : ∀ second pairing, kin second pairing → Succeeds second options) :
    Succeeds first options where
  known seed hseed := by
    obtain ⟨second, pairing, hsecond, _, hpaired, seed', hseed', hmatches⟩ := h seed hseed
    exact (hpaired.known_iff hmatches).mpr ((hkin second pairing hsecond).known seed' hseed')
  becomes id hid := by
    obtain ⟨second, pairing, hsecond, hdocumented, hpaired, b, hb, hreached⟩ :=
      h.exists_isReached hid
    obtain ⟨file, hfile⟩ := (hkin second pairing hsecond).becomes b hreached
    exact ⟨file, (hpaired.becomes_iff hdocumented options hb file).mpr hfile⟩

theorem exists_writes {file : GeneratedFile} (hfile : Writes first options file) :
    ∃ second pairing, kin second pairing ∧ Writes second options file := by
  obtain ⟨id, hid, hbecomes⟩ := hfile
  obtain ⟨second, pairing, hsecond, hdocumented, hpaired, b, hb, hreached⟩ :=
    h.exists_isReached hid
  exact ⟨second, pairing, hsecond, b, hreached,
    (hpaired.becomes_iff hdocumented options hb file).mp hbecomes⟩

end Traced

end Emission

end SchemaBinding
