import SchemaBinding.Proofs.Loading.Closure
import Mathlib.Data.Finset.Card

namespace SchemaBinding

theorem load_cases (setting : Setting) (roots : List Path) :
    (∃ set, SchemaSet.load setting.tree roots setting.limits setting.permissive = .ok set ∧
      set.ClosureOf setting roots ∧ set.size ≤ setting.limits.documents) ∨
      (∃ error, SchemaSet.load setting.tree roots setting.limits setting.permissive =
        .error error) ∧ Loading.Hopeless setting roots := by
  have hbegin : Loading.Progress setting roots (Loading.begin roots).set [] []
      (Loading.begin roots).pending := Loading.progress_begin setting roots
  rcases Loading.progress_run hbegin with ⟨set, more, hset, hdone⟩ | hfailed
  · exact .inl ⟨set, hset, Loading.closureOf_of_progress hdone, hdone.room⟩
  · exact .inr hfailed

theorem Loading.not_hopeless {setting : Setting} {roots : List Path}
    (hloadable : ∀ location, Found (rootLocations roots) setting.targets location →
      setting.Loadable location)
    {members : Finset Location}
    (hmembers : ∀ location, Found (rootLocations roots) setting.targets location →
      location ∈ members)
    (hroom : members.card ≤ setting.limits.documents) : ¬ Hopeless setting roots := by
  rintro (⟨location, hfound, hnot⟩ | ⟨others, hnodup, hothers, htoo⟩)
  · exact hnot (hloadable location hfound)
  · have hsubset : others.toFinset ⊆ members := by
      intro location hlocation
      exact hmembers location (hothers location (List.mem_toFinset.mp hlocation))
    have hcard := Finset.card_le_card hsubset
    rw [List.toFinset_card_of_nodup hnodup] at hcard
    omega

theorem SchemaSet.ClosureOf.loadable {setting : Setting} {roots : List Path} {set : SchemaSet}
    (h : set.ClosureOf setting roots) {location : Location}
    (hfound : Found (rootLocations roots) setting.targets location) :
    setting.Loadable location := by
  obtain ⟨document, hdocument, rfl⟩ := List.mem_map.mp ((h.mem_iff location).mpr hfound)
  obtain ⟨alone, hholds, _⟩ := h.holds document (Array.mem_toList_iff.mp hdocument)
  exact ⟨document.document, alone, hholds⟩

/-- Loading succeeds exactly when everything that the roots lead to can be loaded by itself and
there is room for it, and then it holds just that. -/
theorem load_closure (setting : Setting) (roots : List Path) :
    ((∃ set, SchemaSet.load setting.tree roots setting.limits setting.permissive = .ok set) ↔
      (∀ location, Found (rootLocations roots) setting.targets location →
        setting.Loadable location) ∧
      ∃ members : Finset Location,
        (∀ location, location ∈ members ↔
          Found (rootLocations roots) setting.targets location) ∧
        members.card ≤ setting.limits.documents) ∧
    ∀ set, SchemaSet.load setting.tree roots setting.limits setting.permissive = .ok set →
      set.ClosureOf setting roots := by
  rcases load_cases setting roots with ⟨set, hset, hclosure, hroom⟩ | ⟨⟨error, herror⟩, hhopeless⟩
  · constructor
    · constructor
      · intro _
        refine ⟨fun location => hclosure.loadable, set.locations.toFinset, ?_, ?_⟩
        · intro location
          rw [List.mem_toFinset]
          exact hclosure.mem_iff location
        · rw [List.toFinset_card_of_nodup hclosure.nodup, set.length_locations]
          exact hroom
      · intro _
        exact ⟨set, hset⟩
    · intro other hother
      rw [hset] at hother
      cases hother
      exact hclosure
  · constructor
    · constructor
      · rintro ⟨set, hset⟩
        rw [herror] at hset
        cases hset
      · rintro ⟨hloadable, members, hmembers, hroom⟩
        have hnot := Loading.not_hopeless hloadable
          (fun location hfound => (hmembers location).mpr hfound) hroom
        exact absurd hhopeless hnot
    · intro set hset
      rw [herror] at hset
      cases hset

theorem FileTree.locate_eq_follow {tree : FileTree} {path : Path}
    (hnul : '\x00' ∉ path.text.toList) (hempty : path.text ≠ "")
    (hlength : path.text.utf8ByteSize < 4096) :
    tree.locate path = tree.follow (Place.start path) path.route := by
  have hnone : refused? path = none := by
    rw [refused?, String.contains_char_eq, decide_eq_false hnul, if_neg Bool.false_ne_true,
      if_neg hempty, if_neg (Nat.not_le.mpr hlength)]
  rw [locate, locateBy, hnone]

/-! Two documents that include each other and declare an element of one name. -/

namespace Circle

def firstText : String :=
  "<schema xmlns=\"http://www.w3.org/2001/XMLSchema\"><include schemaLocation=\"b.xsd\"/>" ++
    "<element name=\"order\"/></schema>"

def secondText : String :=
  "<schema xmlns=\"http://www.w3.org/2001/XMLSchema\"><include schemaLocation=\"a.xsd\"/>" ++
    "<element name=\"order\"/><element name=\"item\"/></schema>"

def first : Location := .file ⟨"a.xsd"⟩

def second : Location := .file ⟨"b.xsd"⟩

def setting : Setting where
  tree := ⟨[(⟨.above 0, ["a.xsd"]⟩, .file (.text firstText)),
    (⟨.above 0, ["b.xsd"]⟩, .file (.text secondText))]⟩
  limits := .strict
  permissive := false

def directives? (text label : String) : Option (List Directive) :=
  Except.toOption do
    let document ← Xml.Document.parse text setting.limits
    let (schema, _) ← Schema.read document ⟨0⟩ label setting.permissive {}
    return schema.directives

theorem exists_holds {location : Location} {text : String} {directives : List Directive}
    (htext : location.load setting.tree setting.limits = .ok text)
    (h : directives? text location.text = some directives) :
    ∃ document schema, setting.Holds location document schema ∧
      schema.directives = directives := by
  obtain ⟨hfile, hread, hsize⟩ := Setting.load_eq_ok_iff.mp htext
  unfold directives? at h
  cases hparse : Xml.Document.parse text setting.limits with
  | error error =>
      rw [hparse] at h
      cases h
  | ok document =>
      cases hschema : Schema.read document ⟨0⟩ location.text setting.permissive {} with
      | error error =>
          simp only [hparse, hschema, bind, Except.bind] at h
          cases h
      | ok result =>
          obtain ⟨schema, model⟩ := result
          simp only [hparse, hschema, bind, Except.bind] at h
          cases h
          exact ⟨document, schema, ⟨hfile, ⟨text, hread, hsize, hparse⟩, model, hschema⟩, rfl⟩

theorem readText_first : setting.tree.readText ⟨"a.xsd"⟩ = .ok firstText := by
  rw [FileTree.readText, FileTree.find,
    FileTree.locate_eq_follow (by decide) (by decide) (by decide +kernel)]
  exact eq_ok_of_toOption (by decide +kernel)

theorem readText_second : setting.tree.readText ⟨"b.xsd"⟩ = .ok secondText := by
  rw [FileTree.readText, FileTree.find,
    FileTree.locate_eq_follow (by decide) (by decide) (by decide +kernel)]
  exact eq_ok_of_toOption (by decide +kernel)

theorem holds_first : ∃ document schema, setting.Holds first document schema ∧
    schema.directives = [.inclusion "b.xsd"] :=
  exists_holds (Setting.load_eq_ok_iff.mpr ⟨rfl, readText_first, by decide +kernel⟩)
    (by decide +kernel)

theorem holds_second : ∃ document schema, setting.Holds second document schema ∧
    schema.directives = [.inclusion "a.xsd"] :=
  exists_holds (Setting.load_eq_ok_iff.mpr ⟨rfl, readText_second, by decide +kernel⟩)
    (by decide +kernel)

theorem targets_first : setting.targets first = [second] := by
  obtain ⟨document, schema, hholds, hdirectives⟩ := holds_first
  rw [Setting.targets, Setting.links_of_holds hholds, Schema.targets, hdirectives]
  rfl

theorem targets_second : setting.targets second = [first] := by
  obtain ⟨document, schema, hholds, hdirectives⟩ := holds_second
  rw [Setting.targets, Setting.links_of_holds hholds, Schema.targets, hdirectives]
  rfl

theorem found_iff (location : Location) :
    Found (rootLocations [⟨"./a.xsd"⟩]) setting.targets location ↔
      location = first ∨ location = second := by
  have hroot : rootLocations [⟨"./a.xsd"⟩] = [first] := rfl
  rw [hroot]
  constructor
  · intro h
    induction h with
    | start hstart => exact .inl (List.mem_singleton.mp hstart)
    | target _ hnext ih =>
        rcases ih with rfl | rfl
        · rw [targets_first] at hnext
          exact .inr (List.mem_singleton.mp hnext)
        · rw [targets_second] at hnext
          exact .inl (List.mem_singleton.mp hnext)
  · have hfirst : Found [first] setting.targets first := .start (List.mem_singleton_self _)
    rintro (rfl | rfl)
    · exact hfirst
    · apply Found.target hfirst
      rw [targets_first]
      exact List.mem_singleton_self _

theorem loadable (location : Location)
    (h : Found (rootLocations [⟨"./a.xsd"⟩]) setting.targets location) :
    setting.Loadable location := by
  rcases (found_iff location).mp h with rfl | rfl
  · obtain ⟨document, schema, hholds, _⟩ := holds_first
    exact ⟨document, schema, hholds⟩
  · obtain ⟨document, schema, hholds, _⟩ := holds_second
    exact ⟨document, schema, hholds⟩

end Circle

theorem load_closure_circle :
    ∃ set, SchemaSet.load Circle.setting.tree [⟨"./a.xsd"⟩] .strict false = .ok set ∧
      set.ClosureOf Circle.setting [⟨"./a.xsd"⟩] := by
  obtain ⟨hloads, hclosure⟩ := load_closure Circle.setting [⟨"./a.xsd"⟩]
  have hmembers : ∀ location, location ∈ ({Circle.first, Circle.second} : Finset Location) ↔
      Found (rootLocations [⟨"./a.xsd"⟩]) Circle.setting.targets location := by
    intro location
    rw [Circle.found_iff, Finset.mem_insert, Finset.mem_singleton]
  obtain ⟨set, hset⟩ := hloads.mpr ⟨Circle.loadable, _, hmembers, by decide⟩
  exact ⟨set, hset, hclosure set hset⟩

end SchemaBinding
