import SchemaBinding.SchemaSet.Lookup
import Mathlib.Logic.Relation

namespace SchemaBinding.SchemaSet

open Relation (ReflTransGen)

variable {set : SchemaSet} {links : SchemaDocument → List DocumentId}

def LinksTo (set : SchemaSet) (links : SchemaDocument → List DocumentId)
    (id next : DocumentId) : Prop :=
  ∃ document, set.document? id = some document ∧ next ∈ links document

def Loaded (set : SchemaSet) (id : DocumentId) : Prop :=
  ∃ document, set.document? id = some document

theorem not_loaded_of_none {id : DocumentId} (h : set.document? id = none) : ¬ set.Loaded id := by
  rintro ⟨document, hdocument⟩
  rw [h] at hdocument
  cases hdocument

section

variable {visited rest : List DocumentId} {id : DocumentId}

theorem walk_seen (hseen : id ∈ visited) :
    set.walk links visited (id :: rest) = set.walk links visited rest := by
  rw [walk, dif_pos hseen]

theorem walk_missing (hnew : id ∉ visited) (hnone : set.document? id = none) :
    set.walk links visited (id :: rest) = set.walk links visited rest := by
  rw [walk, dif_neg hnew]
  split
  case h_1 => rfl
  case h_2 document hdocument =>
      rw [hnone] at hdocument
      cases hdocument

theorem walk_found {document : SchemaDocument} (hnew : id ∉ visited)
    (hdocument : set.document? id = some document) :
    set.walk links visited (id :: rest) =
      set.walk links (id :: visited) (links document ++ rest) := by
  rw [walk, dif_neg hnew]
  split
  case h_1 hnone =>
      rw [hdocument] at hnone
      cases hnone
  case h_2 found hfound =>
      rw [hdocument] at hfound
      cases hfound
      rfl

end

/-- Whatever is visited was visited before, or can be reached from the stack. -/
theorem reached_of_mem_walk {visited stack : List DocumentId} {id : DocumentId}
    (h : id ∈ set.walk links visited stack) :
    id ∈ visited ∨
      set.Loaded id ∧ ∃ start ∈ stack, ReflTransGen (set.LinksTo links) start id := by
  fun_induction walk set links visited stack with
  | case1 => exact .inl h
  | case2 visited first rest hseen ih =>
      rcases ih h with hold | ⟨hloaded, start, hstart, hreach⟩
      · exact .inl hold
      · exact .inr ⟨hloaded, start, List.mem_cons_of_mem first hstart, hreach⟩
  | case3 visited first rest hseen hdocument ih =>
      rcases ih h with hold | ⟨hloaded, start, hstart, hreach⟩
      · exact .inl hold
      · exact .inr ⟨hloaded, start, List.mem_cons_of_mem first hstart, hreach⟩
  | case4 visited first rest hseen document hdocument _ ih =>
      rcases ih h with hold | ⟨hloaded, start, hstart, hreach⟩
      · rcases List.mem_cons.mp hold with rfl | hbefore
        · exact .inr ⟨⟨document, hdocument⟩, id, List.mem_cons_self, .refl⟩
        · exact .inl hbefore
      · rcases List.mem_append.mp hstart with hlink | hlater
        · exact .inr ⟨hloaded, first, List.mem_cons_self,
            .head ⟨document, hdocument, hlink⟩ hreach⟩
        · exact .inr ⟨hloaded, start, List.mem_cons_of_mem first hlater, hreach⟩

/-- Whatever a visited document links to is visited, waits on the stack, or is not there. -/
def Covers (set : SchemaSet) (links : SchemaDocument → List DocumentId)
    (visited stack : List DocumentId) : Prop :=
  ∀ id ∈ visited, ∀ next, set.LinksTo links id next → set.Loaded next →
    next ∈ visited ∨ next ∈ stack

theorem Covers.skip {visited rest : List DocumentId} {first : DocumentId}
    (h : set.Covers links visited (first :: rest))
    (hdone : set.Loaded first → first ∈ visited) : set.Covers links visited rest := by
  intro id hid next hnext hloaded
  rcases h id hid next hnext hloaded with hseen | hwaits
  · exact .inl hseen
  · rcases List.mem_cons.mp hwaits with rfl | hlater
    · exact .inl (hdone hloaded)
    · exact .inr hlater

theorem Covers.visit {visited rest : List DocumentId} {first : DocumentId}
    {document : SchemaDocument} (h : set.Covers links visited (first :: rest))
    (hdocument : set.document? first = some document) :
    set.Covers links (first :: visited) (links document ++ rest) := by
  intro id hid next hnext hloaded
  rcases List.mem_cons.mp hid with rfl | hold
  · obtain ⟨found, hfound, hlink⟩ := hnext
    rw [hdocument] at hfound
    cases hfound
    exact .inr (List.mem_append_left _ hlink)
  · rcases h id hold next hnext hloaded with hseen | hwaits
    · exact .inl (List.mem_cons_of_mem first hseen)
    · rcases List.mem_cons.mp hwaits with rfl | hlater
      · exact .inl List.mem_cons_self
      · exact .inr (List.mem_append_right _ hlater)

theorem Covers.mem_of_reached {visited : List DocumentId} (h : set.Covers links visited [])
    {start id : DocumentId} (hstart : set.Loaded start → start ∈ visited)
    (hreach : ReflTransGen (set.LinksTo links) start id) (hloaded : set.Loaded id) :
    id ∈ visited := by
  induction hreach with
  | refl => exact hstart hloaded
  | tail _ hlink ih =>
      have ⟨document, hdocument, _⟩ := hlink
      rcases h _ (ih ⟨document, hdocument⟩) _ hlink hloaded with hmem | hnone
      · exact hmem
      · cases hnone

theorem covers_walk {visited stack : List DocumentId} (h : set.Covers links visited stack) :
    set.Covers links (set.walk links visited stack) [] ∧
      ∀ id, id ∈ visited ∨ id ∈ stack ∧ set.Loaded id → id ∈ set.walk links visited stack := by
  fun_induction walk set links visited stack with
  | case1 visited =>
      refine ⟨h, ?_⟩
      rintro id (hold | ⟨hnone, _⟩)
      · exact hold
      · cases hnone
  | case2 visited first rest hseen ih =>
      obtain ⟨hcovers, hall⟩ := ih (h.skip fun _ => hseen)
      refine ⟨hcovers, ?_⟩
      rintro id (hold | ⟨hmem, hloaded⟩)
      · exact hall id (.inl hold)
      · rcases List.mem_cons.mp hmem with rfl | hlater
        · exact hall id (.inl hseen)
        · exact hall id (.inr ⟨hlater, hloaded⟩)
  | case3 visited first rest hseen hdocument ih =>
      have habsent := not_loaded_of_none hdocument
      obtain ⟨hcovers, hall⟩ := ih (h.skip fun hloaded => absurd hloaded habsent)
      refine ⟨hcovers, ?_⟩
      rintro id (hold | ⟨hmem, hloaded⟩)
      · exact hall id (.inl hold)
      · rcases List.mem_cons.mp hmem with rfl | hlater
        · exact absurd hloaded habsent
        · exact hall id (.inr ⟨hlater, hloaded⟩)
  | case4 visited first rest hseen document hdocument _ ih =>
      obtain ⟨hcovers, hall⟩ := ih (h.visit hdocument)
      refine ⟨hcovers, ?_⟩
      rintro id (hold | ⟨hmem, hloaded⟩)
      · exact hall id (.inl (List.mem_cons_of_mem first hold))
      · rcases List.mem_cons.mp hmem with rfl | hlater
        · exact hall id (.inl List.mem_cons_self)
        · exact hall id (.inr ⟨List.mem_append_right _ hlater, hloaded⟩)

theorem mem_walk_iff {start id : DocumentId} :
    id ∈ set.walk links [] [start] ↔
      set.Loaded id ∧ ReflTransGen (set.LinksTo links) start id := by
  constructor
  · intro h
    rcases reached_of_mem_walk h with hnone | ⟨hloaded, first, hfirst, hreach⟩
    · cases hnone
    · rw [List.mem_singleton.mp hfirst] at hreach
      exact ⟨hloaded, hreach⟩
  · rintro ⟨hloaded, hreach⟩
    have hnone : set.Covers links [] [start] := by simp [Covers]
    obtain ⟨hcovers, hall⟩ := covers_walk hnone
    apply hcovers.mem_of_reached _ hreach hloaded
    intro hstart
    exact hall start (.inr ⟨List.mem_cons_self, hstart⟩)

theorem walk_alone {id : DocumentId} {document : SchemaDocument}
    (hdocument : set.document? id = some document) (hnone : links document = []) :
    set.walk links [] [id] = [id] := by
  rw [walk_found List.not_mem_nil hdocument, hnone, List.append_nil, walk]

def Includes (set : SchemaSet) : DocumentId → DocumentId → Prop :=
  set.LinksTo SchemaDocument.includes

theorem mem_includeClosure_iff {start id : DocumentId} :
    id ∈ set.includeClosure start ↔ set.Loaded id ∧ ReflTransGen set.Includes start id := by
  rw [includeClosure, List.mem_reverse]
  exact mem_walk_iff

end SchemaBinding.SchemaSet
