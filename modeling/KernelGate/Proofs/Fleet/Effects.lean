import KernelGate.Kernel.Fleet
import KernelGate.Proofs.Dict.Counting
import KernelGate.Proofs.Ledger.Slots

/-!
# What the operations of a fleet change

The kernels that are tracked, the ledger, and what the steps before and after a launcher's answer do
to the two. A step that refuses an operation leaves both as they were.

Main statements: `admitLaunch_ok` and `admitLaunch_error` (a launch that is let through, and one
that is refused), `tracked_of_insert` and `tracked_of_erase` (how many kernels are tracked).
-/

namespace KernelGate

namespace Fleet

variable {f g : Fleet}

/-- How many kernels of a selection are tracked. -/
def tracked (f : Fleet) (sel : KernelHandle → Bool) : Nat := f.list.countP sel

/-- The selection of a user's kernels. -/
def ownedBy (user : String) (h : KernelHandle) : Bool := h.user = user

/-- The fleet some milliseconds later. -/
def later (f : Fleet) (millis : Nat) : Fleet := { f with now := f.now + millis }

/-- Every kernel is filed under its own id. -/
def Keyed (f : Fleet) : Prop := ∀ id k, f.kernels.get? id = some k → k.handle.id = id

/-! ## Counting kernels

Selections of kernels are counted as the kernels are listed. Putting a kernel in counts it once if
its id was not there; taking it out takes back just that. -/

theorem tracked_eq_countP (f : Fleet) (sel : KernelHandle → Bool) :
    f.tracked sel = f.kernels.values.countP fun k => sel k.handle := by
  unfold tracked list
  rw [List.countP_map]
  rfl

theorem tracked_congr (hk : g.kernels = f.kernels) (sel : KernelHandle → Bool) :
    g.tracked sel = f.tracked sel := by
  rw [tracked_eq_countP, tracked_eq_countP, hk]

theorem tracked_of_insert {k : Tracked} (hk : g.kernels = f.kernels.insert k.handle.id k)
    (hnew : f.kernels.get? k.handle.id = none) (sel : KernelHandle → Bool) :
    g.tracked sel = f.tracked sel + if sel k.handle then 1 else 0 := by
  rw [tracked_eq_countP, tracked_eq_countP, hk, Dict.countP_values_insert _ _ hnew]

/-- A kernel that is put in the place of another counts once at most. -/
theorem tracked_le_of_insert {k : Tracked} (hk : g.kernels = f.kernels.insert k.handle.id k)
    (sel : KernelHandle → Bool) :
    g.tracked sel ≤ f.tracked sel + if sel k.handle then 1 else 0 := by
  rw [tracked_eq_countP, tracked_eq_countP, hk]
  exact Dict.countP_values_insert_le ..

/-- The kernel that goes was counted, if it was selected. -/
theorem tracked_of_erase {id : String} {k : Tracked} (hk : g.kernels = f.kernels.erase id)
    (hget : f.kernels.get? id = some k) (sel : KernelHandle → Bool) :
    f.tracked sel = g.tracked sel + if sel k.handle then 1 else 0 := by
  rw [tracked_eq_countP, tracked_eq_countP, hk, Dict.countP_values_erase _ hget]

theorem tracked_all (f : Fleet) : f.tracked (fun _ => true) = f.kernels.size := by
  rw [tracked_eq_countP, Dict.size_eq_length_values, List.countP_true]

/-! ## Slots of kernels

Slots are counted by users, and kernels by a selection; the selection of a user's kernels puts the
two side by side. -/

theorem active_restore_owner (l : Ledger) (h : KernelHandle) (user : String) :
    (l.restore h.user).active user = l.active user + if ownedBy user h then 1 else 0 := by
  rw [Ledger.active_restore]
  simp [ownedBy, eq_comm]

theorem active_release_owner (l : Ledger) (h : KernelHandle) (user : String) :
    (l.release h.user).active user = l.active user - if ownedBy user h then 1 else 0 := by
  rw [Ledger.active_release]
  simp [ownedBy, eq_comm]

/-- Beside the slots of `launching` launches, one kernel more takes one slot more. -/
theorem fits_of_insert (launching : Nat) {l : Ledger} {k : Tracked} {user : String}
    (hk : g.kernels = f.kernels.insert k.handle.id k)
    (hfits : f.tracked (ownedBy user) + launching ≤ l.active user) :
    g.tracked (ownedBy user) + launching ≤ (l.restore k.handle.user).active user := by
  have hmore := tracked_le_of_insert hk (ownedBy user)
  rw [active_restore_owner]
  omega

/-- A kernel goes with its slot, and there were slots for all before. -/
theorem fits_of_erase (launching : Nat) {l : Ledger} {id : String} {k : Tracked} {user : String}
    (hk : g.kernels = f.kernels.erase id) (hget : f.kernels.get? id = some k)
    (hfits : f.tracked (ownedBy user) + launching ≤ l.active user) :
    g.tracked (ownedBy user) + launching ≤ (l.release k.handle.user).active user := by
  have hless := tracked_of_erase hk hget (ownedBy user)
  rw [active_release_owner]
  omega

/-! ## Kernels filed under their ids

That a kernel stands under its own id makes it the same to look for an id and for a kernel with that
id. -/

theorem keyed_empty (rules : FleetRules) (limit : Int) (supply : Supply) :
    (empty rules limit supply).Keyed := by
  intro id k h
  cases h

theorem Keyed.congr (h : f.Keyed) (hk : g.kernels = f.kernels) : g.Keyed := by
  unfold Keyed
  rw [hk]
  exact h

theorem Keyed.insert (h : f.Keyed) {k : Tracked}
    (hk : g.kernels = f.kernels.insert k.handle.id k) : g.Keyed := by
  intro id k' hget
  rw [hk, Dict.get?_insert] at hget
  split at hget
  · next hid =>
    cases hget
    exact hid.symm
  · exact h id k' hget

theorem Keyed.erase (h : f.Keyed) {id : String} (hk : g.kernels = f.kernels.erase id) :
    g.Keyed := by
  intro id' k' hget
  rw [hk, Dict.get?_erase] at hget
  split at hget
  · cases hget
  · exact h id' k' hget

/-! ## Kernels in use

A kernel that is used gets a new time of use and nothing else, so that no count is touched. -/

theorem touch_eq {id : String} {k : Tracked} (hget : f.kernels.get? id = some k) :
    f.touch id = { f with kernels := f.kernels.insert id { k with lastActivity := f.now } } := by
  simp only [touch, hget]

theorem touch_eq_self {id : String} (hnone : f.kernels.get? id = none) : f.touch id = f := by
  simp only [touch, hnone]

/-- A kernel in use stays the kernel that it was. -/
theorem tracked_touch (f : Fleet) (id : String) (sel : KernelHandle → Bool) :
    (f.touch id).tracked sel = f.tracked sel := by
  cases hget : f.kernels.get? id with
  | none => rw [touch_eq_self hget]
  | some k =>
    have hreplace := Dict.countP_values_replace (w := { k with lastActivity := f.now })
      (fun k => sel k.handle) hget
    rw [touch_eq hget, tracked_eq_countP, tracked_eq_countP]
    exact Nat.add_right_cancel hreplace

theorem ledger_touch (f : Fleet) (id : String) : (f.touch id).ledger = f.ledger := by
  unfold touch
  split <;> rfl

theorem Keyed.touch (h : f.Keyed) (id : String) : (f.touch id).Keyed := by
  cases hget : f.kernels.get? id with
  | none =>
    rw [touch_eq_self hget]
    exact h
  | some k =>
    have hid : k.handle.id = id := h id k hget
    rw [touch_eq hget]
    refine h.insert (k := { k with lastActivity := f.now }) ?_
    rw [hid]

/-! ## Before the launcher is called

What an operation does at once, before it waits. If it is refused, the fleet is as it was; if not,
these are the fleet that waits and what the launcher is asked. -/

/-- A launch that is let through has passed the policy, both limits and the reservation of ports,
and holds a slot. -/
theorem admitLaunch_ok {spec : KernelSpec} {p : LaunchParams} {r : LaunchRequest}
    (h : f.admitLaunch spec p = (g, .ok r)) :
    ∃ ports, f.rules.policy.admits (f.userOf p) = true ∧ f.isFull = false ∧
      f.ledger.isFull (f.userOf p) = false ∧
      f.rules.portRange.reserve (f.supply.ports f.reservations) portsPerKernel = .ok ports ∧
      prepare { f with
          ledger := f.ledger.restore (f.userOf p)
          reservations := f.reservations + 1 } spec p (f.userOf p) ports = (g, r) := by
  simp only [admitLaunch] at h
  split at h
  · cases h
  · next hpolicy =>
    split at h
    · cases h
    · next hfull =>
      split at h
      · cases h
      · next ledger hslot =>
        split at h
        · cases h
        · next ports hports =>
          -- Once the slot is taken the limit is no longer seen, so it is read off the attempt.
          have hroom : f.ledger.isFull (f.userOf p) = false := by
            unfold Ledger.acquire? at hslot
            split at hslot
            · cases hslot
            · next hroom => simpa using hroom
          rw [Ledger.eq_restore_of_acquire? hslot] at h
          cases h
          exact ⟨ports, by simpa using hpolicy, by simpa using hfull, hroom, hports, rfl⟩

/-- A launch that is refused leaves no trace but in the figures, and in that ports may have been
tried. -/
theorem admitLaunch_error {spec : KernelSpec} {p : LaunchParams} {e : Fault}
    (htidy : f.ledger.Tidy) (h : f.admitLaunch spec p = (g, .error e)) :
    ∃ reservations metrics, g = { f with reservations, metrics } := by
  simp only [admitLaunch] at h
  split at h
  · cases h
    exact ⟨_, _, rfl⟩
  · split at h
    · cases h
      exact ⟨_, _, rfl⟩
    · split at h
      · cases h
        exact ⟨_, _, rfl⟩
      · next ledger hslot =>
        split at h
        · cases h
          rw [Ledger.eq_restore_of_acquire? hslot, Ledger.release_restore htidy]
          exact ⟨_, _, rfl⟩
        · cases h

theorem beginShutdown_of_none {id : String} (hnone : f.kernels.get? id = none) :
    f.beginShutdown id = (f, .error (.notFound (.kernel id))) := by
  simp only [beginShutdown, hnone]

/-- A kernel that is to be ended is no longer tracked from then on, and its slot has been given
back. -/
theorem beginShutdown_of_some {id : String} {k : Tracked} (hget : f.kernels.get? id = some k) :
    f.beginShutdown id = (gauge { f with
        kernels := f.kernels.erase id
        ledger := f.ledger.release k.handle.user }, .ok k) := by
  simp only [beginShutdown, hget]

/-! ## A small fleet -/

/-- Rules that let everybody in. -/
def openRules (maxKernels? : Option Nat) : FleetRules where
  policy := ⟨∅, ∅⟩
  maxKernels?
  portRange := .unrestricted
  hosts := []
  impersonation := false
  gatewayUser := "gateway"

/-- Names in order of the alphabet, and ports that can all be bound. -/
def plainSupply : Supply where
  kernelId n := String.singleton (Char.ofNat ('a'.toNat + n))
  sessionId n := String.singleton (Char.ofNat ('A'.toNat + n))
  ports _ := ⟨id, fun attempt _ => .bound (Port.ofNat (attempt + 1))⟩

end Fleet

end KernelGate
