namespace SchemaBinding

/-- How many numbers below a bound are not taken yet. -/
def room (bound : Nat) (taken : List Nat) : Nat :=
  ((List.range bound).filter fun index => decide (index ∉ taken)).length

theorem room_le (bound : Nat) (taken : List Nat) : room bound taken ≤ bound := by
  have h := List.length_filter_le (fun index => decide (index ∉ taken)) (List.range bound)
  rw [List.length_range] at h
  exact h

theorem room_cons_lt {bound index : Nat} {taken : List Nat} (hlt : index < bound)
    (hnew : index ∉ taken) : room bound (index :: taken) < room bound taken := by
  have hsub : (List.range bound).filter (fun other => decide (other ∉ index :: taken)) =
      ((List.range bound).filter fun other => decide (other ∉ taken)).filter
        fun other => decide (other ≠ index) := by
    simp [List.filter_filter]
  rw [room, hsub, room]
  apply List.length_filter_lt_length_iff_exists.mpr
  exact ⟨index, by simp [hlt, hnew], by simp⟩

end SchemaBinding
