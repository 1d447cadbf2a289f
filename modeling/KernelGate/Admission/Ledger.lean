import KernelGate.Dict

/-!
# The ledger of running kernels

The ledger counts the kernels of each user against a limit per user. A user without kernels has no
entry. `release` consists of two steps, `decrement` and `dropZero`, that other calls may come
between.

Main statements: `active_acquire`, `active_restore`, `active_release` say what the operations do
to the counts; `acquire?_eq_none_iff` says when a launch is refused.
-/

namespace KernelGate

/-- Kernels by user, and how many each may have; a negative limit is none. -/
structure Ledger where
  limit : Int
  counts : Dict Nat
  deriving DecidableEq

namespace Ledger

/-- The ledger of a gateway without kernels. -/
def empty (limit : Int) : Ledger := ⟨limit, ∅⟩

/-- The kernels of a user. -/
def active (l : Ledger) (user : String) : Nat := (l.counts.get? user).getD 0

/-- Whether a user has as many kernels as the limit allows. -/
def isFull (l : Ledger) (user : String) : Bool := 0 ≤ l.limit && l.limit ≤ l.active user

/-- Count one kernel more, without regard to the limit. -/
def restore (l : Ledger) (user : String) : Ledger :=
  { l with counts := l.counts.insert user (l.active user + 1) }

/-- Count one kernel more if the limit allows it. -/
def acquire? (l : Ledger) (user : String) : Option Ledger :=
  if l.isFull user then none else some (l.restore user)

/-- Count one kernel less; an entry that reaches zero stays. -/
def decrement (l : Ledger) (user : String) : Ledger :=
  match l.counts.get? user with
  | none => l
  | some n => { l with counts := l.counts.insert user (n - 1) }

/-- Take away an entry that has reached zero. -/
def dropZero (l : Ledger) (user : String) : Ledger :=
  if l.counts.get? user = some 0 then { l with counts := l.counts.erase user } else l

/-- Count one kernel less. -/
def release (l : Ledger) (user : String) : Ledger := (l.decrement user).dropZero user

/-! ## Counts

What each operation does to the count of each user; the entries behind the counts are looked at
elsewhere. -/

theorem active_restore (l : Ledger) (user other : String) :
    (l.restore user).active other = l.active other + if other = user then 1 else 0 := by
  simp only [restore, active, Dict.get?_insert]
  split
  · next h => simp [h]
  · simp

/-- A slot is refused at the limit; a limit below zero refuses nothing. -/
theorem acquire?_eq_none_iff {l : Ledger} {user : String} :
    l.acquire? user = none ↔ 0 ≤ l.limit ∧ l.limit ≤ l.active user := by
  simp [acquire?, isFull]

theorem active_acquire {l m : Ledger} {user : String} (h : l.acquire? user = some m)
    (other : String) : m.active other = l.active other + if other = user then 1 else 0 := by
  rw [acquire?] at h
  split at h
  · simp at h
  · cases h; exact active_restore l user other

theorem active_decrement (l : Ledger) (user other : String) :
    (l.decrement user).active other = l.active other - if other = user then 1 else 0 := by
  rw [decrement]
  split
  · next h =>
    split
    · next hu => simp [active, hu, h]
    · simp
  · next n h =>
    simp only [active, Dict.get?_insert]
    split
    · next hu => simp [hu, h]
    · simp

theorem active_dropZero (l : Ledger) (user other : String) :
    (l.dropZero user).active other = l.active other := by
  rw [dropZero]
  split
  · next h =>
    simp only [active, Dict.get?_erase]
    split
    · next hu => simp [hu, h]
    · rfl
  · rfl

/-- A user who has no slots has none after a release. -/
theorem active_release (l : Ledger) (user other : String) :
    (l.release user).active other = l.active other - if other = user then 1 else 0 := by
  rw [release, active_dropZero, active_decrement]

end Ledger

end KernelGate
