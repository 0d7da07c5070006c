namespace SchemaBinding

abbrev Table (α β : Type) := List (α × β)

namespace Table

variable {α β : Type} [DecidableEq α]

def get? (table : Table α β) (key : α) : Option β :=
  match table with
  | [] => none
  | (other, value) :: rest => if other = key then some value else get? rest key

/-- A key that is there keeps its place and takes the new value; another goes to the end. -/
def put (table : Table α β) (key : α) (value : β) : Table α β :=
  match table with
  | [] => [(key, value)]
  | (other, old) :: rest =>
      if other = key then (other, value) :: rest else (other, old) :: put rest key value

def keys (table : Table α β) : List α :=
  table.map Prod.fst

theorem get?_put_self (table : Table α β) (key : α) (value : β) :
    (table.put key value).get? key = some value := by
  induction table with
  | nil => simp [put, get?]
  | cons entry rest ih =>
      by_cases h : entry.1 = key <;> simp [put, get?, h, ih]

theorem get?_put_other (table : Table α β) {key other : α} (value : β) (hne : other ≠ key) :
    (table.put key value).get? other = table.get? other := by
  induction table with
  | nil => simp [put, get?, Ne.symm hne]
  | cons entry rest ih =>
      by_cases h : entry.1 = key
      · simp [put, get?, h, Ne.symm hne]
      · simp [put, get?, h, ih]

theorem get?_eq_none_iff {table : Table α β} {key : α} :
    table.get? key = none ↔ key ∉ table.keys := by
  induction table with
  | nil => simp [get?, keys]
  | cons entry rest ih =>
      by_cases h : entry.1 = key
      · simp [get?, keys, h]
      · simpa [get?, keys, h, Ne.symm h] using ih

theorem mem_keys_of_get? {table : Table α β} {key : α} {value : β}
    (h : table.get? key = some value) : key ∈ table.keys := by
  apply Decidable.byContradiction
  intro hnew
  rw [get?_eq_none_iff.mpr hnew] at h
  cases h

theorem keys_put (table : Table α β) (key : α) (value : β) :
    (table.put key value).keys =
      if key ∈ table.keys then table.keys else table.keys ++ [key] := by
  induction table with
  | nil => simp [put, keys]
  | cons entry rest ih =>
      by_cases h : entry.1 = key
      · simp [put, keys, h]
      · simp only [put, h, if_false]
        simp only [keys, List.map_cons, List.mem_cons, Ne.symm h, false_or]
        simp only [keys] at ih
        rw [ih]
        split <;> simp [*]

theorem put_of_notMem {table : Table α β} {key : α} (h : key ∉ table.keys) (value : β) :
    table.put key value = table ++ [(key, value)] := by
  induction table with
  | nil => rfl
  | cons entry rest ih =>
      simp only [keys, List.map_cons, List.mem_cons, not_or] at h
      rw [put, if_neg (Ne.symm h.1), ih h.2, List.cons_append]

theorem mem_keys_put {table : Table α β} {key other : α} {value : β} :
    other ∈ (table.put key value).keys ↔ other ∈ table.keys ∨ other = key := by
  rw [keys_put]
  split
  case isTrue h =>
      constructor
      · exact .inl
      · rintro (hmem | rfl)
        · exact hmem
        · exact h
  case isFalse h => rw [List.mem_append, List.mem_singleton]

theorem nodup_keys_put {table : Table α β} (h : table.keys.Nodup) (key : α) (value : β) :
    (table.put key value).keys.Nodup := by
  rw [keys_put]
  split
  case isTrue => exact h
  case isFalse hnew =>
      apply List.nodup_append.mpr
      refine ⟨h, List.pairwise_singleton _ key, ?_⟩
      intro first hfirst second hsecond heq
      rw [List.mem_singleton.mp hsecond] at heq
      exact hnew (heq ▸ hfirst)

theorem mem_put {table : Table α β} {key : α} {value : β} {entry : α × β}
    (h : entry ∈ table.put key value) : entry ∈ table ∨ entry = (key, value) := by
  induction table with
  | nil => exact .inr (List.mem_singleton.mp h)
  | cons first rest ih =>
      rw [put] at h
      split at h
      case isTrue heq =>
          rcases List.mem_cons.mp h with rfl | hrest
          · exact .inr (by rw [heq])
          · exact .inl (List.mem_cons_of_mem first hrest)
      case isFalse =>
          rcases List.mem_cons.mp h with rfl | hrest
          · exact .inl List.mem_cons_self
          · rcases ih hrest with hmem | heq
            · exact .inl (List.mem_cons_of_mem first hmem)
            · exact .inr heq

end Table

end SchemaBinding
