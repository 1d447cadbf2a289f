import KernelGate.Proofs.Ledger.Slots

/-!
# Users and their slots

All users share one ledger, and entries come and go with their slots. What a user is told, and what
is counted for the user, is what comes of the user's own calls alone.

Main statements: `agrees_perform` and `agrees_others` (one call), `agrees_performAll` (a history).
-/

namespace KernelGate

namespace Ledger

/-- What can be asked of a ledger. -/
inductive Request where
  | acquire
  | restore
  | release
  deriving DecidableEq

/-- A call to a ledger. -/
structure Entry where
  request : Request
  user : String
  deriving DecidableEq

/-- Carry out a call; a slot that is asked for is given or refused. -/
def perform (l : Ledger) (e : Entry) : Ledger × Option Bool :=
  match e.request with
  | .acquire =>
    match l.acquire? e.user with
    | none => (l, some false)
    | some m => (m, some true)
  | .restore => (l.restore e.user, none)
  | .release => (l.release e.user, none)

/-- Carry out calls one after another. -/
def performAll (l : Ledger) (entries : List Entry) : Ledger :=
  entries.foldl (fun l e => (l.perform e).1) l

/-- What a user sees of a history: to each of the user's own calls the decision, and the count that
it leaves. -/
def seen (user : String) : Ledger → List Entry → List (Option Bool × Nat)
  | _, [] => []
  | l, e :: rest =>
    let next := l.perform e
    if e.user = user then (next.2, next.1.active user) :: seen user next.1 rest
    else seen user next.1 rest

/-! ## Ledgers that agree on a user

Whether a user is granted a slot depends on the limit and on what is counted for that user. Ledgers
that have both in common may differ in all else. -/

/-- Two ledgers have the same limit, and count the same for a user. -/
structure Agrees (user : String) (l m : Ledger) : Prop where
  limit : m.limit = l.limit
  active : m.active user = l.active user

variable {user : String} {l m : Ledger} {e : Entry}

theorem agrees_refl (user : String) (l : Ledger) : Agrees user l l := ⟨rfl, rfl⟩

theorem Agrees.isFull (h : Agrees user l m) : m.isFull user = l.isFull user := by
  unfold Ledger.isFull
  rw [h.limit, h.active]

theorem Agrees.restore (h : Agrees user l m) : Agrees user (l.restore user) (m.restore user) where
  limit := h.limit
  active := by rw [active_restore, active_restore, h.active]

theorem Agrees.release (h : Agrees user l m) : Agrees user (l.release user) (m.release user) where
  limit := by rw [limit_release, limit_release, h.limit]
  active := by rw [active_release, active_release, h.active]

/-- What is counted for others is nothing to the user. -/
theorem Agrees.restore_other (h : Agrees user l m) {other : String} (hne : other ≠ user) :
    Agrees user (l.restore other) m where
  limit := h.limit
  active := by
    rw [active_restore, if_neg hne.symm, Nat.add_zero]
    exact h.active

/-- Nor does it when others give theirs back. -/
theorem Agrees.release_other (h : Agrees user l m) {other : String} (hne : other ≠ user) :
    Agrees user (l.release other) m where
  limit := by
    rw [limit_release]
    exact h.limit
  active := by
    rw [active_release, if_neg hne.symm, Nat.sub_zero]
    exact h.active

/-! ## One call

A call of the user is answered alike by ledgers that agree, and the call of someone else changes
nothing that the user's calls are answered from. -/

theorem perform_acquire_of_full (hfull : l.isFull user = true) :
    l.perform ⟨.acquire, user⟩ = (l, some false) := by
  simp [perform, acquire?, hfull]

theorem perform_acquire_of_room (hfull : l.isFull user = false) :
    l.perform ⟨.acquire, user⟩ = (l.restore user, some true) := by
  simp [perform, acquire?, hfull]

/-- A user's own call is answered alike, and leaves the ledgers alike. -/
theorem agrees_perform (h : Agrees user l m) (he : e.user = user) :
    (m.perform e).2 = (l.perform e).2 ∧ Agrees user (l.perform e).1 (m.perform e).1 := by
  obtain ⟨request, owner⟩ := e
  obtain rfl : owner = user := he
  cases request with
  | acquire =>
    cases hfull : l.isFull owner with
    | true =>
      rw [perform_acquire_of_full hfull, perform_acquire_of_full (h.isFull.trans hfull)]
      exact ⟨rfl, h⟩
    | false =>
      rw [perform_acquire_of_room hfull, perform_acquire_of_room (h.isFull.trans hfull)]
      exact ⟨rfl, h.restore⟩
  | restore => exact ⟨rfl, h.restore⟩
  | release => exact ⟨rfl, h.release⟩

/-- The call of another user changes nothing for this one. -/
theorem agrees_others (h : Agrees user l m) (he : e.user ≠ user) :
    Agrees user (l.perform e).1 m := by
  obtain ⟨request, other⟩ := e
  cases request with
  | acquire =>
    cases hfull : l.isFull other with
    | true =>
      rw [perform_acquire_of_full hfull]
      exact h
    | false =>
      rw [perform_acquire_of_room hfull]
      exact h.restore_other he
  | restore => exact h.restore_other he
  | release => exact h.release_other he

/-! ## Histories

By induction on the history, with the ledgers in agreement all along. -/

/-- The others' calls can be left out of a history. -/
theorem agrees_performAll (h : Agrees user l m) (entries : List Entry) :
    Agrees user (l.performAll entries) (m.performAll (entries.filter (·.user = user))) ∧
      seen user l entries = seen user m (entries.filter (·.user = user)) := by
  induction entries generalizing l m with
  | nil => exact ⟨h, rfl⟩
  | cons e rest ih =>
    by_cases he : e.user = user
    · obtain ⟨hdecision, hnext⟩ := agrees_perform h he
      obtain ⟨hall, hseen⟩ := ih hnext
      rw [List.filter_cons_of_pos (by simpa using he)]
      refine ⟨hall, ?_⟩
      simp only [seen, if_pos he, hdecision, hnext.active, hseen]
    · obtain ⟨hall, hseen⟩ := ih (agrees_others h he)
      rw [List.filter_cons_of_neg (by simpa using he)]
      refine ⟨hall, ?_⟩
      simp only [seen, if_neg he, hseen]

end Ledger

end KernelGate
