import KernelGate.Admission.Ledger

/-!
# Slots taken and given back

A slot that is taken and given back, or given back and taken again, leaves the ledger as it was,
entries included. The first needs a ledger without entries of zero, which all operations keep; the
second needs a slot to give back.

Main statements: `release_restore` and `restore_release`; `contains_iff_active_pos`.
-/

namespace KernelGate

namespace Ledger

variable {l m : Ledger} {user : String}

/-! ## Entries

What each operation makes of the entry of a user, and of those of others. All that follows rests on
these, and nothing below opens an operation again. -/

@[simp] theorem limit_restore (l : Ledger) (user : String) : (l.restore user).limit = l.limit := rfl

@[simp] theorem limit_release (l : Ledger) (user : String) : (l.release user).limit = l.limit := by
  unfold release dropZero decrement
  split <;> split <;> rfl

/-- A restored slot is counted on from the entry, or from none. -/
theorem get?_restore (l : Ledger) (user other : String) :
    (l.restore user).counts.get? other =
      if other = user then some (l.active user + 1) else l.counts.get? other :=
  Dict.get?_insert ..

/-- The last slot of a user takes the entry with it. -/
theorem get?_release (l : Ledger) (user other : String) :
    (l.release user).counts.get? other =
      if other = user then if l.active user ≤ 1 then none else some (l.active user - 1)
      else l.counts.get? other := by
  unfold release dropZero decrement active
  cases h : l.counts.get? user with
  | none => by_cases ho : other = user <;> simp [h, ho]
  | some n =>
    by_cases hn : n ≤ 1
    · have hz : n - 1 = 0 := by omega
      by_cases ho : other = user <;> simp [hn, hz, ho, Dict.get?_insert, Dict.get?_erase]
    · have hz : n - 1 ≠ 0 := by omega
      by_cases ho : other = user <;> simp [hn, hz, ho, Dict.get?_insert]

/-- Ledgers with one limit and the same entries are equal. -/
theorem ext_get? (hlimit : l.limit = m.limit)
    (h : ∀ user, l.counts.get? user = m.counts.get? user) : l = m := by
  cases l; cases m
  cases hlimit
  exact congrArg (Ledger.mk _) (Dict.ext_get? h)

/-! ## Ledgers without entries of zero

A ledger is tidy if it has no entries of zero. Operations keep it tidy: an entry that falls to zero
is removed by the same operation. -/

/-- Whoever has an entry has a kernel. -/
def Tidy (l : Ledger) : Prop := ∀ user, l.counts.get? user ≠ some 0

theorem tidy_empty (limit : Int) : (empty limit).Tidy := by
  intro user h
  cases h

theorem Tidy.restore (h : l.Tidy) (user : String) : (l.restore user).Tidy := by
  intro other
  rw [get?_restore]
  split
  · simp
  · exact h other

/-- The entry that a release leaves at zero it also removes. -/
theorem Tidy.release (h : l.Tidy) (user : String) : (l.release user).Tidy := by
  intro other
  rw [get?_release]
  split
  · split
    · simp
    · simp; omega
  · exact h other

/-- A granted slot is counted as a restored one is; only the limit stands in between. -/
theorem eq_restore_of_acquire? (h : l.acquire? user = some m) : m = l.restore user := by
  unfold acquire? at h
  split at h
  · cases h
  · cases h; rfl

/-- In a tidy ledger users have entries for as long as they have slots. -/
theorem contains_iff_active_pos (h : l.Tidy) (user : String) :
    l.counts.contains user = true ↔ 0 < l.active user := by
  have hz := h user
  unfold Dict.contains active
  cases hget : l.counts.get? user with
  | none => simp
  | some n =>
    rw [hget] at hz
    simp only [Option.isSome_some, Option.getD_some, true_iff]
    exact Nat.pos_of_ne_zero fun hn => hz (congrArg some hn)

/-! ## Inverses

Taking and giving back undo each other, in either order. The ledgers are compared entry by entry. -/

/-- A slot that is taken and given back at once was never taken. -/
theorem release_restore (h : l.Tidy) (user : String) : (l.restore user).release user = l := by
  refine ext_get? (by simp) ?_
  intro other
  rw [get?_release, active_restore, get?_restore]
  by_cases ho : other = user
  · subst ho
    have hz := h other
    unfold active
    cases hget : l.counts.get? other with
    | none => simp
    | some n =>
      rw [hget] at hz
      have hn : n ≠ 0 := fun hn => hz (congrArg some hn)
      simp [hn]
  · simp [ho]

/-- A slot that is given back and taken again was never given back. -/
theorem restore_release (h : 0 < l.active user) : (l.release user).restore user = l := by
  refine ext_get? (by simp) ?_
  intro other
  rw [get?_restore, active_release, get?_release]
  by_cases ho : other = user
  · subst ho
    unfold active at h ⊢
    cases hget : l.counts.get? other with
    | none => simp [hget] at h
    | some n =>
      rw [hget] at h
      simp only [Option.getD_some] at h
      simp only [Option.getD_some, ↓reduceIte, Option.some.injEq]
      omega
  · simp [ho]

end Ledger

end KernelGate
