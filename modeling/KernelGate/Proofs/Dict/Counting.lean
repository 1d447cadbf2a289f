import KernelGate.Dict

/-!
# Counting the entries of a dictionary

Taking an entry away leaves the other entries as they are, so that whatever is counted over a
dictionary changes by that entry alone.

Main statements: `toList_perm` splits one entry off; `countP_values_insert`,
`countP_values_replace` and `countP_values_erase` say what the updates do to counts.
-/

namespace KernelGate

namespace Dict

variable {β : Type}

theorem nodup_toList (d : Dict β) : d.toList.Nodup := by
  refine List.Pairwise.imp ?_ d.sorted
  intro a b hlt heq
  rw [heq] at hlt
  exact String.lt_irrefl _ hlt

/-- An entry and the rest: the entries of a dictionary up to their order. -/
theorem toList_perm {d : Dict β} {k : String} {v : β} (h : d.get? k = some v) :
    d.toList.Perm ((k, v) :: (d.erase k).toList) := by
  have hnew : (k, v) ∉ (d.erase k).toList := by
    intro hmem
    have hget := mem_toList.1 hmem
    rw [get?_erase_self] at hget
    cases hget
  have hnodup : ((k, v) :: (d.erase k).toList).Nodup :=
    List.nodup_cons.2 ⟨hnew, nodup_toList _⟩
  refine (List.perm_ext_iff_of_nodup (nodup_toList d) hnodup).2 ?_
  rintro ⟨k', v'⟩
  rw [List.mem_cons, mem_toList, mem_toList, get?_erase]
  by_cases hk : k' = k
  · subst hk
    simp [h, eq_comm]
  · simp [hk]

/-- The values are that of one key and those of all others. -/
theorem values_perm {d : Dict β} {k : String} {v : β} (h : d.get? k = some v) :
    d.values.Perm (v :: (d.erase k).values) :=
  (toList_perm h).map Prod.snd

/-- An entry that goes is no longer counted. -/
theorem countP_values_erase {d : Dict β} {k : String} {v : β} (p : β → Bool)
    (h : d.get? k = some v) :
    d.values.countP p = (d.erase k).values.countP p + if p v then 1 else 0 := by
  rw [(values_perm h).countP_eq, List.countP_cons]

/-- An entry under a new key is counted besides the others. -/
theorem countP_values_insert {d : Dict β} {k : String} (v : β) (p : β → Bool)
    (h : d.get? k = none) :
    (d.insert k v).values.countP p = d.values.countP p + if p v then 1 else 0 := by
  rw [countP_values_erase p (get?_insert_self d k v), erase_insert v h]

theorem erase_insert_self (d : Dict β) (k : String) (v : β) :
    (d.insert k v).erase k = d.erase k := by
  apply ext_get?
  intro k'
  rw [get?_erase, get?_erase, get?_insert]
  split <;> rfl

/-- A value in place of another. -/
theorem countP_values_replace {d : Dict β} {k : String} {v w : β} (p : β → Bool)
    (h : d.get? k = some v) :
    (d.insert k w).values.countP p + (if p v then 1 else 0) =
      d.values.countP p + if p w then 1 else 0 := by
  rw [countP_values_erase p (get?_insert_self d k w), erase_insert_self, countP_values_erase p h]
  omega

/-- Whatever stood at the key before, a count grows by the new value at most. -/
theorem countP_values_insert_le (d : Dict β) (k : String) (v : β) (p : β → Bool) :
    (d.insert k v).values.countP p ≤ d.values.countP p + if p v then 1 else 0 := by
  cases h : d.get? k with
  | none => exact Nat.le_of_eq (countP_values_insert v p h)
  | some w =>
    have hreplace := countP_values_replace (w := v) p h
    omega

theorem size_eq_length_values (d : Dict β) : d.size = d.values.length := by
  simp [size, values]

end Dict

end KernelGate
