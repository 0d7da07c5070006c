import SchemaBinding.Proofs.Component.Mention
import SchemaBinding.Proofs.Loading.Loaded

namespace SchemaBinding

open Relation (ReflTransGen)
open Relator (BiUnique)

theorem exists_rel_of_reflTransGen {α β : Type} {alike : α → β → Prop} {step : α → α → Prop}
    {step' : β → β → Prop}
    (hstep : ∀ a b, alike a b → ∀ c, step a c → ∃ d, step' b d ∧ alike c d) {a c : α} {b : β}
    (h : alike a b) (hreach : ReflTransGen step a c) :
    ∃ d, alike c d ∧ ReflTransGen step' b d := by
  induction hreach with
  | refl => exact ⟨b, h, .refl⟩
  | tail _ hnext ih =>
      obtain ⟨middle, hmiddle, hreach'⟩ := ih
      obtain ⟨d, hd, halike⟩ := hstep _ _ hmiddle _ hnext
      exact ⟨d, halike, hreach'.tail hd⟩

namespace SchemaSet

section

variable {first second : SchemaSet} {alike : DocumentId → DocumentId → Prop}
  {links : SchemaDocument → List DocumentId}

/-- Documents that are alike are there, and link to documents that are alike. -/
def LinksAlike (first second : SchemaSet) (links : SchemaDocument → List DocumentId)
    (alike : DocumentId → DocumentId → Prop) : Prop :=
  ∀ id id', alike id id' → ∃ document document', first.document? id = some document ∧
    second.document? id' = some document' ∧ List.Forall₂ alike (links document) (links document')

theorem LinksAlike.rel (hlinks : first.LinksAlike second links alike) (id id' : DocumentId)
    (h : alike id id') :
    Option.Rel (fun document document' => List.Forall₂ alike (links document) (links document'))
      (first.document? id) (second.document? id') := by
  obtain ⟨document, document', hdocument, hdocument', hall⟩ := hlinks id id' h
  rw [hdocument, hdocument']
  exact .some hall

theorem visible_rel (hunique : BiUnique alike)
    (hlinks : first.LinksAlike second SchemaDocument.links alike) {id id' : DocumentId}
    (h : alike id id') : List.Forall₂ alike (first.visible id) (second.visible id') :=
  List.rel_reverse (forall₂_walk hunique hlinks.rel .nil (.cons h .nil))

theorem exists_alike_of_leads (hlinks : first.LinksAlike second links alike)
    {start id start' : DocumentId} (h : alike start start')
    (hreach : ReflTransGen (first.LinksTo links) start id) :
    ∃ id', alike id id' ∧ ReflTransGen (second.LinksTo links) start' id' := by
  refine exists_rel_of_reflTransGen ?_ h hreach
  rintro middle middle' hmiddle next ⟨found, hfound, hmem⟩
  obtain ⟨document, document', hdocument, hdocument', hall⟩ := hlinks _ _ hmiddle
  rw [hdocument] at hfound
  cases hfound
  obtain ⟨next', hnext', hnext⟩ := exists_rel_of_mem hall hmem
  exact ⟨next', ⟨document', hdocument', hnext'⟩, hnext⟩

end

variable {first second : SchemaSet}

/-- Documents that were loaded from one place. -/
def Alongside (first second : SchemaSet) (id id' : DocumentId) : Prop :=
  ∃ location, first.location? id = some location ∧ second.location? id' = some location

theorem alongside_iff {id id' : DocumentId} :
    first.Alongside second id id' ↔ ∃ document document', first.document? id = some document ∧
      second.document? id' = some document' ∧ document.path = document'.path := by
  simp only [Alongside, location?_eq_some_iff]
  constructor
  · rintro ⟨_, ⟨document, hdocument, rfl⟩, document', hdocument', hplace⟩
    exact ⟨document, document', hdocument, hdocument', (Location.file.inj hplace).symm⟩
  · rintro ⟨document, document', hdocument, hdocument', hpath⟩
    exact ⟨_, ⟨document, hdocument, rfl⟩, document', hdocument', by rw [hpath]⟩

theorem Alongside.flip {id id' : DocumentId} (h : first.Alongside second id id') :
    second.Alongside first id' id := by
  obtain ⟨location, hlocation, hlocation'⟩ := h
  exact ⟨location, hlocation', hlocation⟩

theorem eq_of_location?_eq {set : SchemaSet} (hnodup : set.locations.Nodup) {a b : DocumentId}
    {location : Location} (ha : set.location? a = some location)
    (hb : set.location? b = some location) : a = b := by
  have hlt := (List.getElem?_eq_some_iff.mp ha).choose
  exact congrArg DocumentId.mk ((List.getElem?_inj hlt hnodup).mp (ha.trans hb.symm))

theorem biUnique_alongside (h : first.locations.Nodup) (h' : second.locations.Nodup) :
    BiUnique (first.Alongside second) := by
  constructor
  · rintro a b c ⟨location, ha, hc⟩ ⟨other, hb, hc'⟩
    rw [hc] at hc'
    cases hc'
    exact eq_of_location?_eq h ha hb
  · rintro a b c ⟨location, ha, hb⟩ ⟨other, ha', hc⟩
    rw [ha] at ha'
    cases ha'
    exact eq_of_location?_eq h' hb hc

theorem forall₂_alongside {ids ids' : List DocumentId} {locations : List Location}
    (h : ids.map first.location? = locations.map some)
    (h' : ids'.map second.location? = locations.map some) :
    List.Forall₂ (first.Alongside second) ids ids' := by
  induction locations generalizing ids ids' with
  | nil =>
      cases List.map_eq_nil_iff.mp h
      cases List.map_eq_nil_iff.mp h'
      exact .nil
  | cons location rest ih =>
      obtain ⟨id, ids, rfl, hid, hids⟩ := List.map_eq_cons_iff.mp h
      obtain ⟨id', ids', rfl, hid', hids'⟩ := List.map_eq_cons_iff.mp h'
      exact .cons ⟨location, hid, hid'⟩ (ih hids hids')

namespace ClosureOf

variable {setting setting' : Setting} {roots roots' : List Path}
  (h : first.ClosureOf setting roots) (h' : second.ClosureOf setting' roots')
  (hlinks : ∀ location ∈ first.locations, setting.links location = setting'.links location)

include h h'

theorem biUnique : BiUnique (first.Alongside second) :=
  biUnique_alongside h.nodup h'.nodup

include hlinks

theorem linksAlike_linked (kind : LinkKind) :
    first.LinksAlike second (SchemaDocument.linked · kind) (first.Alongside second) := by
  intro id id' halong
  obtain ⟨document, document', hdocument, hdocument', hpath⟩ := alongside_iff.mp halong
  refine ⟨document, document', hdocument, hdocument', ?_⟩
  have hplace : .file document.path ∈ first.locations :=
    List.mem_map.mpr ⟨document, Array.mem_toList_iff.mpr (Array.mem_of_getElem? hdocument), rfl⟩
  have hlinked := h'.linked id' document' kind hdocument'
  rw [← hpath, ← hlinks _ hplace] at hlinked
  exact forall₂_alongside (h.linked id document kind hdocument) hlinked

theorem linksAlike_includes :
    first.LinksAlike second SchemaDocument.includes (first.Alongside second) :=
  h.linksAlike_linked h' hlinks .inclusion

theorem linksAlike_links :
    first.LinksAlike second SchemaDocument.links (first.Alongside second) := by
  intro id id' halong
  obtain ⟨document, document', hdocument, hdocument', hincludes⟩ :=
    h.linksAlike_linked h' hlinks .inclusion id id' halong
  obtain ⟨found, found', hfound, hfound', himports⟩ :=
    h.linksAlike_linked h' hlinks .importing id id' halong
  rw [hdocument] at hfound
  rw [hdocument'] at hfound'
  cases hfound
  cases hfound'
  exact ⟨document, document', hdocument, hdocument', List.rel_append hincludes himports⟩

end ClosureOf

end SchemaSet

end SchemaBinding
