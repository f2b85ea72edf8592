import SocketRelay.Table

/-!
# Further facts on keyed tables

Tables with equal rows are equal; the lemmas on `get?` beside the definitions do not see the order
of rows.
-/
namespace SocketRelay.Table
variable {α β : Type} {t : Table α β}

theorem ext_rows {t u : Table α β} (h : t.rows = u.rows) : t = u := by
  cases t; cases u; cases h; rfl

theorem size_filter_le (t : Table α β) (p : α → β → Bool) : (t.filter p).size ≤ t.size :=
  List.length_filter_le _ _

theorem filter_filter (t : Table α β) (p q : α → β → Bool) :
    (t.filter p).filter q = t.filter fun k v => p k v && q k v := by
  refine ext_rows ?_
  simp [filter, List.filter_filter, Bool.and_comm]

variable [DecidableEq α] {k : α}

theorem erase_of_get?_eq_none (h : t.get? k = none) : t.erase k = t := by
  refine ext_rows (List.filter_eq_self.2 fun r hr => ?_)
  have hk : r.1 ≠ k := fun hk => get?_eq_none_iff.1 h (hk ▸ List.mem_map_of_mem hr)
  simpa using hk

theorem erase_insert (t : Table α β) (k : α) (v : β) : (t.insert k v).erase k = t.erase k := by
  refine ext_rows ?_
  unfold insert
  split
  · simp [erase, filter]
  · rename_i h
    simp only [erase, filter, modify, List.filter_map]
    have hk : ((fun r : α × β => decide (r.1 ≠ k)) ∘ fun r => if r.1 = k then (r.1, v) else r) =
        fun r => decide (r.1 ≠ k) := by
      funext r
      by_cases hr : r.1 = k <;> simp [hr]
    rw [hk]
    refine (List.map_congr_left fun r hr => ?_).trans (List.map_id _)
    simp_all

/-- A value that fails the test is as good as none. -/
theorem filter_insert_of_fails (t : Table α β) {p : α → β → Bool} {v : β} (h : p k v = false) :
    (t.insert k v).filter p = (t.filter p).erase k := by
  have hnone : ((t.insert k v).filter p).get? k = none := by
    simp [get?_filter, h]
  calc (t.insert k v).filter p
      _ = ((t.insert k v).filter p).erase k := (erase_of_get?_eq_none hnone).symm
      _ = ((t.insert k v).erase k).filter p := by
        simp only [erase, filter_filter, Bool.and_comm]
      _ = (t.erase k).filter p := by rw [erase_insert]
      _ = (t.filter p).erase k := by simp only [erase, filter_filter, Bool.and_comm]

theorem insert_of_get? {v : β} (h : t.get? k = some v) : t.insert k v = t := by
  refine ext_rows ?_
  unfold insert
  split
  · simp_all
  · refine (List.map_congr_left fun r hr => ?_).trans (List.map_id _)
    by_cases hk : r.1 = k
    · obtain ⟨k', v'⟩ := r
      obtain rfl : k' = k := hk
      obtain rfl : v = v' := Option.some.inj (h.symm.trans (get?_eq_some_iff.2 hr))
      simp
    · simp [hk]

theorem insert_insert (t : Table α β) (k : α) (v v' : β) :
    (t.insert k v).insert k v' = t.insert k v' := by
  refine ext_rows ?_
  have hk : (t.insert k v).get? k ≠ none := by simp
  rw [insert, dif_neg hk]
  unfold insert
  split
  · rename_i h
    have hrows : (t.rows.map fun r => if r.1 = k then (r.1, v') else r) = t.rows := by
      refine (List.map_congr_left fun r hr => ?_).trans (List.map_id _)
      have hne : r.1 ≠ k := fun hk => get?_eq_none_iff.1 h (hk ▸ List.mem_map_of_mem hr)
      simp [hne]
    simp [modify, hrows]
  · simp only [modify, List.map_map]
    refine List.map_congr_left fun r _ => ?_
    by_cases hr : r.1 = k <;> simp [hr]

theorem size_insert (t : Table α β) (k : α) (v : β) :
    (t.insert k v).size = if t.get? k = none then t.size + 1 else t.size := by
  unfold insert
  split <;> simp_all [size, modify]

end SocketRelay.Table
