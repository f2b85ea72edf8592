/-!
# Keyed tables

A finite map kept as a list of rows, one row for each key, in the order in which the keys first
came. Descriptor registrations, a client's sockets and the mailboxes of a relay are all tables.

The rows carry their own proof that no key occurs twice, so a look-up may stop at the first hit.
The order of rows is part of the value, but a walk over a table need not follow it: an `Order`
visits every row once, in any sequence. No statement here promises anything about the cost of a
look-up.
-/
namespace SocketRelay

structure Table (α β : Type) where
  rows : List (α × β)
  distinct : (rows.map Prod.fst).Nodup

namespace Table
variable {α β : Type}

/-- An order in which the rows of a table are visited, which may be another one for every table. -/
structure Order (α β : Type) where
  visit : Table α β → List (α × β)
  perm (t : Table α β) : (visit t).Perm t.rows

/-- The order of the rows themselves. -/
def Order.ofRows : Order α β := ⟨rows, fun _ => .refl _⟩

theorem Order.distinct (o : Order α β) (t : Table α β) : ((o.visit t).map Prod.fst).Nodup :=
  ((o.perm t).map Prod.fst).nodup_iff.2 t.distinct

def empty : Table α β := ⟨[], by simp⟩

instance : EmptyCollection (Table α β) := ⟨empty⟩
instance : Inhabited (Table α β) := ⟨empty⟩

@[simp] theorem Order.visit_empty (o : Order α β) : o.visit empty = [] := (o.perm empty).eq_nil

def size (t : Table α β) : Nat := t.rows.length

/-- The values, in the order of the rows. -/
def values (t : Table α β) : List β := t.rows.map Prod.snd

variable [DecidableEq α]

def get? (t : Table α β) (k : α) : Option β :=
  (t.rows.find? fun r => r.1 = k).map Prod.snd

def contains (t : Table α β) (k : α) : Bool := (t.get? k).isSome

/-- Only the rows that satisfy the test, their order kept. -/
def filter (t : Table α β) (p : α → β → Bool) : Table α β where
  rows := t.rows.filter fun r => p r.1 r.2
  distinct := t.distinct.sublist (List.filter_sublist.map Prod.fst)

/-- The table without the row of this key. -/
def erase (t : Table α β) (k : α) : Table α β := t.filter fun k' _ => k' ≠ k

/-- Change the value of one key; a table without that key stays as it is. -/
def modify (t : Table α β) (k : α) (f : β → β) : Table α β where
  rows := t.rows.map fun r => if r.1 = k then (r.1, f r.2) else r
  distinct := by
    have h : (t.rows.map fun r => if r.1 = k then (r.1, f r.2) else r).map Prod.fst
        = t.rows.map Prod.fst := by
      rw [List.map_map]
      refine List.map_congr_left fun r _ => ?_
      by_cases hr : r.1 = k <;> simp [hr]
    rw [h]
    exact t.distinct

theorem get?_eq_none_iff {t : Table α β} {k : α} :
    t.get? k = none ↔ k ∉ t.rows.map Prod.fst := by
  simp only [get?, Option.map_eq_none_iff, List.find?_eq_none, decide_eq_true_eq, List.mem_map,
    Prod.exists, Prod.forall, not_exists, not_and]

/-- Store a value: in place when the key is there, as the last row otherwise. -/
def insert (t : Table α β) (k : α) (v : β) : Table α β :=
  if h : t.get? k = none then
    { rows := t.rows ++ [(k, v)]
      distinct := by
        rw [List.map_append, List.nodup_append]
        refine ⟨t.distinct, by simp, ?_⟩
        intro a ha b hb hab
        have hk : b = k := by simpa using hb
        exact get?_eq_none_iff.1 h (hk ▸ hab ▸ ha) }
  else t.modify k fun _ => v

@[simp] theorem get?_empty (k : α) : (empty : Table α β).get? k = none := rfl

theorem get?_eq_some_iff {t : Table α β} {k : α} {v : β} :
    t.get? k = some v ↔ (k, v) ∈ t.rows := by
  obtain ⟨rows, hd⟩ := t
  induction rows with
  | nil => simp [get?]
  | cons r rows ih =>
    obtain ⟨k', v'⟩ := r
    simp only [List.map_cons, List.nodup_cons] at hd
    have ih := ih hd.2
    by_cases hk : k' = k
    · subst hk
      have hn : (k', v) ∉ rows := fun hm => hd.1 (List.mem_map.2 ⟨_, hm, rfl⟩)
      simp [get?, hn, eq_comm]
    · have hk' : k ≠ k' := fun h => hk h.symm
      simpa [get?, hk, hk'] using ih

theorem get?_modify (t : Table α β) (k j : α) (f : β → β) :
    (t.modify k f).get? j = if j = k then (t.get? j).map f else t.get? j := by
  obtain ⟨rows, hd⟩ := t
  induction rows with
  | nil => simp [get?, modify]
  | cons r rows ih =>
    obtain ⟨k', v'⟩ := r
    simp only [List.map_cons, List.nodup_cons] at hd
    have ih := ih hd.2
    simp only [get?, modify] at ih
    by_cases hk : k' = k <;> by_cases hj : k' = j <;> grind [get?, modify]

theorem get?_insert (t : Table α β) (k j : α) (v : β) :
    (t.insert k v).get? j = if j = k then some v else t.get? j := by
  unfold insert
  split
  · rename_i h
    by_cases hj : j = k
    · subst hj
      have : (t.rows.find? fun r => r.1 = j) = none := by simpa [get?] using h
      simp [get?, List.find?_append, this]
    · have hj' : ¬ k = j := fun h => hj h.symm
      simp [get?, List.find?_append, hj, hj']
  · rename_i h
    obtain ⟨w, hw⟩ := Option.ne_none_iff_exists'.1 h
    rw [get?_modify]
    by_cases hj : j = k
    · subst hj; simp [hw]
    · simp [hj]

theorem get?_filter (t : Table α β) (p : α → β → Bool) (j : α) :
    (t.filter p).get? j = (t.get? j).filter (p j) := by
  apply Option.ext
  intro v
  simp [get?_eq_some_iff, filter, Option.filter_eq_some_iff]

theorem get?_erase (t : Table α β) (k j : α) :
    (t.erase k).get? j = if j = k then none else t.get? j := by
  unfold erase
  rw [get?_filter]
  by_cases hj : j = k
  · subst hj; cases t.get? j <;> simp
  · cases h : t.get? j <;> simp [hj]

@[simp] theorem get?_insert_self (t : Table α β) (k : α) (v : β) :
    (t.insert k v).get? k = some v := by simp [get?_insert]

@[simp] theorem get?_erase_self (t : Table α β) (k : α) : (t.erase k).get? k = none := by
  simp [get?_erase]

end Table

end SocketRelay
