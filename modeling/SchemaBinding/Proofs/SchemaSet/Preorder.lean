import SchemaBinding.Proofs.SchemaSet.Closure
import Mathlib.Data.List.Forall2

namespace SchemaBinding.SchemaSet

open Relator (BiUnique)

variable {set : SchemaSet} {links : SchemaDocument → List DocumentId}

mutual

/-- A visit to a document: from those visited before to those visited afterwards, both in the
order in which they were come to. -/
inductive Tours (set : SchemaSet) (links : SchemaDocument → List DocumentId) :
    List DocumentId → DocumentId → List DocumentId → Prop
  | passed {visited : List DocumentId} {id : DocumentId} :
      id ∈ visited → Tours set links visited id visited
  | taken {visited after : List DocumentId} {id : DocumentId} {document : SchemaDocument} :
      id ∉ visited → set.document? id = some document →
        ToursAll set links (visited ++ [id]) (links document) after →
          Tours set links visited id after

/-- Visits to documents one after another. -/
inductive ToursAll (set : SchemaSet) (links : SchemaDocument → List DocumentId) :
    List DocumentId → List DocumentId → List DocumentId → Prop
  | nil {visited : List DocumentId} : ToursAll set links visited [] visited
  | cons {visited between after : List DocumentId} {id : DocumentId} {rest : List DocumentId} :
      Tours set links visited id between → ToursAll set links between rest after →
        ToursAll set links visited (id :: rest) after

end

theorem ToursAll.split {first second visited after : List DocumentId}
    (h : ToursAll set links visited (first ++ second) after) :
    ∃ between, ToursAll set links visited first between ∧
      ToursAll set links between second after := by
  induction first generalizing visited with
  | nil => exact ⟨visited, .nil, h⟩
  | cons id rest ih =>
      cases h with
      | cons hid hrest =>
          obtain ⟨between, hfirst, hsecond⟩ := ih hrest
          exact ⟨between, .cons hid hfirst, hsecond⟩

mutual

theorem Tours.unique {visited first second : List DocumentId} {id : DocumentId} :
    Tours set links visited id first → Tours set links visited id second → first = second
  | .passed _, .passed _ => rfl
  | .passed hseen, .taken hnew _ _ => absurd hseen hnew
  | .taken hnew _ _, .passed hseen => absurd hseen hnew
  | .taken _ hfound hall, .taken _ hfound' hall' => by
      rw [hfound] at hfound'
      cases hfound'
      exact hall.unique hall'

theorem ToursAll.unique {visited ids first second : List DocumentId} :
    ToursAll set links visited ids first → ToursAll set links visited ids second →
      first = second
  | .nil, .nil => rfl
  | .cons hid hrest, .cons hid' hrest' => by
      have hbetween := hid.unique hid'
      subst hbetween
      exact hrest.unique hrest'

end

/-- Every link leads to a document that is there. -/
def Closed (set : SchemaSet) (links : SchemaDocument → List DocumentId) : Prop :=
  ∀ id next, set.LinksTo links id next → set.Loaded next

theorem toursAll_walk (hclosed : set.Closed links) {visited stack : List DocumentId}
    (hstack : ∀ id ∈ stack, set.Loaded id) :
    ToursAll set links visited.reverse stack (set.walk links visited stack).reverse := by
  fun_induction walk set links visited stack with
  | case1 visited => exact .nil
  | case2 visited first rest hseen ih =>
      have hrest := ih fun id hid => hstack id (List.mem_cons_of_mem first hid)
      exact .cons (.passed (List.mem_reverse.mpr hseen)) hrest
  | case3 visited first rest hseen hdocument ih =>
      exact absurd (hstack first List.mem_cons_self) (not_loaded_of_none hdocument)
  | case4 visited first rest hseen document hdocument _ ih =>
      have hnext : ∀ id ∈ links document ++ rest, set.Loaded id := by
        intro id hid
        rcases List.mem_append.mp hid with hlink | hlater
        · exact hclosed first id ⟨document, hdocument, hlink⟩
        · exact hstack id (List.mem_cons_of_mem first hlater)
      have hall := ih hnext
      rw [List.reverse_cons] at hall
      obtain ⟨between, hlinks, hrest⟩ := hall.split
      exact .cons (.taken (mt List.mem_reverse.mp hseen) hdocument hlinks) hrest

theorem tours_iff (hclosed : set.Closed links) {start : DocumentId} (hstart : set.Loaded start)
    (order : List DocumentId) :
    Tours set links [] start order ↔ (set.walk links [] [start]).reverse = order := by
  have hstack : ∀ id ∈ [start], set.Loaded id := by
    intro id hid
    rw [List.mem_singleton.mp hid]
    exact hstart
  have hwalk : Tours set links [] start (set.walk links [] [start]).reverse := by
    have hall : ToursAll set links ([] : List DocumentId).reverse [start] _ :=
      toursAll_walk hclosed hstack
    cases hall with
    | cons hfirst hrest =>
        cases hrest
        exact hfirst
  constructor
  · exact hwalk.unique
  · rintro rfl
    exact hwalk

theorem nodup_walk {visited stack : List DocumentId} (h : visited.Nodup) :
    (set.walk links visited stack).Nodup := by
  fun_induction walk set links visited stack with
  | case1 visited => exact h
  | case2 visited first rest hseen ih => exact ih h
  | case3 visited first rest hseen hdocument ih => exact ih h
  | case4 visited first rest hseen document hdocument _ ih =>
      exact ih (List.nodup_cons.mpr ⟨hseen, h⟩)

/-! Walks of two sets. -/

section

variable {first second : SchemaSet}

/-- The matching is one to one, so that one walk has seen a document when the other has. -/
theorem forall₂_walk {alike : DocumentId → DocumentId → Prop} (hunique : BiUnique alike)
    (hlinks : ∀ id id', alike id id' →
      Option.Rel (fun document document' => List.Forall₂ alike (links document) (links document'))
        (first.document? id) (second.document? id'))
    {visited visited' stack stack' : List DocumentId}
    (hvisited : List.Forall₂ alike visited visited') (hstack : List.Forall₂ alike stack stack') :
    List.Forall₂ alike (first.walk links visited stack) (second.walk links visited' stack') := by
  fun_induction first.walk links visited stack generalizing visited' stack' with
  | case1 =>
      cases hstack
      rw [walk]
      exact hvisited
  | case2 visited id rest hseen ih =>
      cases hstack with
      | cons hid hrest =>
          rw [walk_seen ((List.rel_mem hunique hid hvisited).mp hseen)]
          exact ih hvisited hrest
  | case3 visited id rest hseen hnone ih =>
      cases hstack with
      | @cons _ id' _ rest' hid hrest =>
          have hnew : id' ∉ visited' := mt (List.rel_mem hunique hid hvisited).mpr hseen
          have hfound := hlinks id id' hid
          generalize hother : second.document? id' = found at hfound
          rw [hnone] at hfound
          cases hfound
          rw [walk_missing hnew hother]
          exact ih hvisited hrest
  | case4 visited id rest hseen document hdocument _ ih =>
      cases hstack with
      | @cons _ id' _ rest' hid hrest =>
          have hnew : id' ∉ visited' := mt (List.rel_mem hunique hid hvisited).mpr hseen
          have hfound := hlinks id id' hid
          generalize hother : second.document? id' = found at hfound
          rw [hdocument] at hfound
          cases hfound with
          | some hall =>
              rw [walk_found hnew hother]
              exact ih (.cons hid hvisited) (List.rel_append hall hrest)

theorem walk_eq (hlinks : ∀ id,
      Option.Rel (fun document document' => links document = links document')
        (first.document? id) (second.document? id)) (visited stack : List DocumentId) :
    first.walk links visited stack = second.walk links visited stack := by
  have hunique : BiUnique (@Eq DocumentId) :=
    ⟨fun _ _ _ h h' => h.trans h'.symm, fun _ _ _ h h' => h.symm.trans h'⟩
  rw [← List.forall₂_eq_eq_eq]
  refine forall₂_walk hunique ?_ (List.forall₂_refl visited) (List.forall₂_refl stack)
  rintro id _ rfl
  simpa only [List.forall₂_eq_eq_eq] using hlinks id

end

end SchemaBinding.SchemaSet
