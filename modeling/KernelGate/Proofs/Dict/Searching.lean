import KernelGate.Dict

/-!
# Searching the values of a dictionary

The values stand in the order of their keys, so that the first one with a property is well
determined. A new entry goes somewhere among the others, and leaves their order as it was.

Main statements: `find?_values_insert_self` and `find?_values_insert` say what a new entry does to a
search; `values_filter` what remains of the values when entries are taken out.
-/

namespace KernelGate

variable {β : Type}

/-- A new entry stands between those before it and those behind it. -/
theorem Entries.insert_split {k : String} (v : β) {l : List (String × β)}
    (h : Entries.find? k l = none) :
    ∃ before after, l = before ++ after ∧ Entries.insert k v l = before ++ (k, v) :: after := by
  induction l with
  | nil => exact ⟨[], [], rfl, rfl⟩
  | cons e rest ih =>
    have hne : k ≠ e.1 := by
      intro heq
      rw [Entries.find?, if_pos heq] at h
      cases h
    rw [Entries.find?, if_neg hne] at h
    rw [Entries.insert, if_neg hne]
    split
    · exact ⟨[], e :: rest, rfl, rfl⟩
    · obtain ⟨before, after, rfl, hinsert⟩ := ih h
      refine ⟨e :: before, after, rfl, ?_⟩
      rw [hinsert]
      rfl

namespace Dict

variable {d : Dict β} {k : String} {v : β} {p : β → Bool}

/-- Each value stands under some key. -/
theorem mem_values : v ∈ d.values ↔ ∃ k, d.get? k = some v := by
  unfold values
  rw [List.mem_map]
  constructor
  · rintro ⟨⟨k, _⟩, hmem, rfl⟩
    exact ⟨k, mem_toList.1 hmem⟩
  · rintro ⟨k, hget⟩
    exact ⟨(k, v), mem_toList.2 hget, rfl⟩

theorem contains_insert (d : Dict β) (k k' : String) (v : β) :
    (d.insert k v).contains k' = true ↔ k' = k ∨ d.contains k' = true := by
  rw [contains_iff, contains_iff, get?_insert]
  by_cases h : k' = k <;> simp [h]

theorem contains_erase (d : Dict β) (k k' : String) :
    (d.erase k).contains k' = true ↔ k' ≠ k ∧ d.contains k' = true := by
  rw [contains_iff, contains_iff, get?_erase]
  by_cases h : k' = k <;> simp [h]

/-- A new value goes in between those before its key and those behind it. -/
theorem values_insert_split (v : β) (h : d.get? k = none) :
    ∃ before after, d.values = before ++ after ∧ (d.insert k v).values = before ++ v :: after := by
  obtain ⟨before, after, hsplit, hinsert⟩ := Entries.insert_split v h
  refine ⟨before.map (·.2), after.map (·.2), ?_, ?_⟩
  · unfold values
    rw [hsplit, List.map_append]
  · show (Entries.insert k v d.toList).map (·.2) = _
    rw [hinsert, List.map_append, List.map_cons]

theorem mem_values_insert {w : β} (h : d.get? k = none) :
    w ∈ (d.insert k v).values ↔ w = v ∨ w ∈ d.values := by
  obtain ⟨before, after, hsplit, hinsert⟩ := values_insert_split v h
  rw [hsplit, hinsert]
  simp only [List.mem_append, List.mem_cons]
  exact or_left_comm

/-- A new entry that is not searched for does not count. -/
theorem find?_values_insert (hnew : d.get? k = none) (hv : p v = false) :
    (d.insert k v).values.find? p = d.values.find? p := by
  obtain ⟨before, after, hsplit, hinsert⟩ := values_insert_split v hnew
  rw [hsplit, hinsert, List.find?_append, List.find?_append, List.find?_cons, hv]

/-- A new entry is found if it is the only one that is searched for. -/
theorem find?_values_insert_self (hnew : d.get? k = none) (hv : p v = true)
    (hnone : d.values.find? p = none) : (d.insert k v).values.find? p = some v := by
  obtain ⟨before, after, hsplit, hinsert⟩ := values_insert_split v hnew
  rw [hsplit, List.find?_append, Option.or_eq_none_iff] at hnone
  rw [hinsert, List.find?_append, hnone.1, List.find?_cons, hv]
  rfl

/-- Filtering by values filters the list of values. -/
theorem values_filter (d : Dict β) (p : β → Bool) :
    (d.filter fun _ v => p v).values = d.values.filter p := by
  unfold values
  rw [List.filter_map]
  rfl

/-- What a filter does is settled by the entries that are there. -/
theorem filter_congr {p q : String → β → Bool} (h : ∀ k v, d.get? k = some v → p k v = q k v) :
    d.filter p = d.filter q := by
  apply ext_get?
  intro k
  rw [get?_filter, get?_filter]
  cases hget : d.get? k with
  | none => rfl
  | some v => simp only [Option.filter_some, h k v hget]

/-- The entries of other keys. -/
def without (d : Dict β) (keys : List String) : Dict β := d.filter fun k _ => decide (k ∉ keys)

theorem get?_without (d : Dict β) (keys : List String) (k : String) :
    (d.without keys).get? k = if k ∈ keys then none else d.get? k := by
  rw [without, get?_filter]
  by_cases hk : k ∈ keys
  · cases d.get? k <;> simp [hk, Option.filter]
  · cases d.get? k <;> simp [hk, Option.filter]

@[simp] theorem without_nil (d : Dict β) : d.without [] = d := by
  apply ext_get?
  intro k
  rw [get?_without, if_neg List.not_mem_nil]

/-- Keys are taken out one after another. -/
theorem without_cons (d : Dict β) (k : String) (keys : List String) :
    d.without (k :: keys) = (d.erase k).without keys := by
  apply ext_get?
  intro k'
  rw [get?_without, get?_without, get?_erase]
  by_cases hk : k' = k <;> simp [hk]

theorem mem_values_of_without {keys : List String} (h : v ∈ (d.without keys).values) :
    v ∈ d.values := by
  obtain ⟨k, hget⟩ := mem_values.1 h
  rw [get?_without] at hget
  split at hget
  · cases hget
  · exact mem_values.2 ⟨k, hget⟩

theorem nodup_keys (d : Dict β) : d.keys.Nodup := by
  unfold keys
  rw [List.nodup_iff_pairwise_ne, List.pairwise_map]
  refine d.sorted.imp ?_
  intro a b hlt heq
  rw [heq] at hlt
  exact String.lt_irrefl _ hlt

end Dict

end KernelGate
