import Mathlib.Data.List.Induction
import Mathlib.Data.List.Nodup
import Mathlib.Data.List.Perm.Subperm

namespace SchemaBinding

theorem prefix_flatMap {α β : Type} {first second : List α} (f : α → List β)
    (h : first <+: second) : first.flatMap f <+: second.flatMap f := by
  obtain ⟨rest, rfl⟩ := h
  rw [List.flatMap_append]
  exact List.prefix_append _ _

theorem nodup_concat {α : Type} {items : List α} {item : α} (h : items.Nodup)
    (hnew : item ∉ items) : (items ++ [item]).Nodup := by
  rw [← List.concat_eq_append]
  exact List.Nodup.concat hnew h

variable {α : Type} [DecidableEq α]

theorem eraseDups_concat (items : List α) (item : α) :
    (items ++ [item]).eraseDups =
      if item ∈ items then items.eraseDups else items.eraseDups ++ [item] := by
  rw [List.eraseDups_append]
  split
  case isTrue h =>
      have hnone : [item].removeAll items = [] := by simp [List.removeAll, h]
      rw [hnone, List.eraseDups_nil, List.append_nil]
  case isFalse h =>
      have hone : [item].removeAll items = [item] := by simp [List.removeAll, h]
      rw [hone]
      rfl

theorem nodup_eraseDups (items : List α) : items.eraseDups.Nodup := by
  induction items using List.reverseRecOn with
  | nil => exact List.nodup_nil
  | append_singleton items item ih =>
      rw [eraseDups_concat]
      split
      case isTrue => exact ih
      case isFalse hnew =>
          exact nodup_concat ih fun hmem => hnew (List.mem_eraseDups.mp hmem)

theorem prefix_eraseDups {first second : List α} (h : first <+: second) :
    first.eraseDups <+: second.eraseDups := by
  obtain ⟨rest, rfl⟩ := h
  rw [List.eraseDups_append]
  exact List.prefix_append _ _

variable (starts : List α) (targets : α → List α)

def discovered : Nat → List α
  | 0 => starts.eraseDups
  | rounds + 1 => (starts ++ (discovered rounds).flatMap targets).eraseDups

/-- What the starts lead to, themselves included. -/
inductive Found : α → Prop
  | start {item : α} : item ∈ starts → Found item
  | target {item next : α} : Found item → next ∈ targets item → Found next

variable {starts targets}

theorem prefix_round {first second : List α} (h : first <+: second) :
    (starts ++ first.flatMap targets).eraseDups <+:
      (starts ++ second.flatMap targets).eraseDups :=
  prefix_eraseDups ((List.prefix_append_right_inj starts).mpr (prefix_flatMap targets h))

theorem discovered_begins_succ (starts : List α) (targets : α → List α) (rounds : Nat) :
    discovered starts targets rounds <+: discovered starts targets (rounds + 1) := by
  induction rounds with
  | zero => exact prefix_eraseDups (List.prefix_append _ _)
  | succ rounds ih => exact prefix_round ih

theorem discovered_begins {order : List α}
    (h : order = (starts ++ order.flatMap targets).eraseDups) (rounds : Nat) :
    discovered starts targets rounds <+: order := by
  induction rounds with
  | zero =>
      rw [h]
      exact prefix_eraseDups (List.prefix_append _ _)
  | succ rounds ih =>
      rw [h]
      exact prefix_round ih

theorem mem_discovered_of_stable {rounds : Nat}
    (h : discovered starts targets (rounds + 1) = discovered starts targets rounds) {item : α}
    (hfound : Found starts targets item) : item ∈ discovered starts targets rounds := by
  induction hfound with
  | start hstart =>
      rw [← h]
      exact List.mem_eraseDups.mpr (List.mem_append_left _ hstart)
  | target _ hnext ih =>
      rw [← h]
      apply List.mem_eraseDups.mpr
      exact List.mem_append_right _ (List.mem_flatMap.mpr ⟨_, ih, hnext⟩)

/-- Rounds find everything, or else one thing each and one at the start. -/
theorem all_discovered_or_lt (starts : List α) (targets : α → List α) (rounds : Nat) :
    (∀ item, Found starts targets item → item ∈ discovered starts targets rounds) ∨
      rounds < (discovered starts targets rounds).length := by
  induction rounds with
  | zero =>
      by_cases hnone : discovered starts targets 0 = []
      · have hstarts : starts = [] := by
          apply List.eq_nil_iff_forall_not_mem.mpr
          intro item hitem
          have hmem : item ∈ discovered starts targets 0 := List.mem_eraseDups.mpr hitem
          rw [hnone] at hmem
          cases hmem
        left
        intro item hfound
        apply mem_discovered_of_stable _ hfound
        subst hstarts
        rfl
      · exact .inr (List.length_pos_iff.mpr hnone)
  | succ rounds ih =>
      have hbegins := discovered_begins_succ starts targets rounds
      rcases ih with hall | hlt
      · left
        intro item hfound
        exact hbegins.subset (hall item hfound)
      · -- a round that adds nothing is the last one, and any other adds one thing at least
        by_cases hstable : discovered starts targets (rounds + 1) = discovered starts targets rounds
        · left
          intro item hfound
          rw [hstable]
          exact mem_discovered_of_stable hstable hfound
        · right
          have hle := hbegins.length_le
          have hne : (discovered starts targets rounds).length ≠
              (discovered starts targets (rounds + 1)).length := by
            intro heq
            exact hstable (hbegins.eq_of_length heq).symm
          omega

/-- The order of discovery is the only one of its kind. -/
theorem discovered_eq {order : List α}
    (h : order = (starts ++ order.flatMap targets).eraseDups)
    (hfound : ∀ item ∈ order, Found starts targets item) {rounds : Nat}
    (hrounds : order.length ≤ rounds) : discovered starts targets rounds = order := by
  have hbegins := discovered_begins h rounds
  have hlength := hbegins.length_le
  rcases all_discovered_or_lt starts targets rounds with hall | hlt
  · have hnodup : order.Nodup := by
      rw [h]
      exact nodup_eraseDups _
    have hle : order.length ≤ (discovered starts targets rounds).length :=
      (List.Nodup.subperm hnodup fun item hitem => hall item (hfound item hitem)).length_le
    exact hbegins.eq_of_length (Nat.le_antisymm hlength hle)
  · omega

end SchemaBinding
