/-!
# Tables

Values by key, as a list in which a key is looked up from the front.  A key that is put into a table
takes the stead of an equal one:

    lookup_put      the key that is put has its value, and every other key the one it had
    lookup_remove   the key that is removed has none, and every other key the one it had

Keys that are different stay so (`nodup_keys_put`).
-/

namespace NamedKeys

/-- Values by key. -/
abbrev Table (α β : Type) := List (α × β)

namespace Table

variable {α β : Type} [BEq α]

def remove (table : Table α β) (key : α) : Table α β :=
  table.filter (·.1 != key)

/-- The table with a value under a key, in the stead of any other. -/
def put (table : Table α β) (key : α) (value : β) : Table α β :=
  (key, value) :: remove table key

variable [LawfulBEq α]

@[simp] theorem lookup_remove (table : Table α β) (key other : α) :
    (remove table key).lookup other = if other == key then none else table.lookup other := by
  induction table with
  | nil => simp [remove]
  | cons entry table ih =>
    obtain ⟨first, value⟩ := entry
    rw [remove, List.filter_cons, List.lookup_cons]
    by_cases h : first = key
    · rw [if_neg (by simp [h])]
      refine ih.trans ?_
      by_cases ho : other = key
      · simp [ho]
      · simp [h, beq_false_of_ne ho]
    · rw [if_pos (by simpa using h), List.lookup_cons]
      by_cases ho : other = first
      · simp [ho, h]
      · rw [beq_false_of_ne ho]
        exact ih

@[simp] theorem lookup_put (table : Table α β) (key other : α) (value : β) :
    (put table key value).lookup other = if other == key then some value else table.lookup other := by
  rw [put, List.lookup_cons, lookup_remove]
  by_cases h : other = key
  · simp [h]
  · simp [beq_false_of_ne h]

theorem lookup_eq_none_iff {table : Table α β} {key : α} :
    table.lookup key = none ↔ key ∉ table.map Prod.fst := by
  rw [List.lookup_eq_none_iff, List.mem_map, not_exists]
  refine forall_congr' fun entry => ?_
  rw [bne_iff_ne, not_and, ne_comm]

/-- A key that is put into a table whose keys are different is there once. -/
theorem nodup_keys_put {table : Table α β} (h : (table.map Prod.fst).Nodup) (key : α) (value : β) :
    ((table.put key value).map Prod.fst).Nodup := by
  refine List.nodup_cons.2 ⟨fun hmem => ?_, h.sublist (List.filter_sublist.map Prod.fst)⟩
  obtain ⟨kept, hkept, hkey⟩ := List.mem_map.1 hmem
  simpa [hkey] using (List.mem_filter.1 hkept).2

end Table

end NamedKeys
