import KernelGate.Proofs.Activity.Holding
import KernelGate.Proofs.Fleet.Calls
import KernelGate.Proofs.Fleet.Naming
import Mathlib.Algebra.Order.Group.Multiset

/-!
# A slot for each kernel and each launch

Whoever launches a kernel holds a slot from the moment that the launch is let through until the
kernel is tracked or the slot is given back. So there is a slot for each kernel that is tracked and
for each launch that is under way, whatever names launches get and in whatever order calls are
answered; and if a launch is given up, its slot is one more than there need be.

Main statements: `Backed` is what is kept, `guards_create`, `guards_reattach` and `guards_shutdown`
say that the operations of a fleet keep it, and that only launches which are let through are asked
of the launcher.
-/

namespace KernelGate

namespace Fleet

open Activity

/-- The rules are these, and there are slots for all kernels and for the launches of the users who
hold one. -/
structure Backed (rules : FleetRules) (held : Multiset String) (f : Fleet) : Prop where
  rules : f.rules = rules
  keyed : f.Keyed
  tidy : f.ledger.Tidy
  backed : ∀ user, f.tracked (ownedBy user) + held.count user ≤ f.ledger.active user

variable {f g : Fleet} {rules : FleetRules} {held others : Multiset String} {l : Ledger}
  {kernels : Dict Tracked}

/-- A fleet without kernels needs no slots. -/
theorem backed_empty (rules : FleetRules) (limit : Int) (supply : Supply) :
    Backed rules 0 (empty rules limit supply) where
  rules := rfl
  keyed := keyed_empty rules limit supply
  tidy := Ledger.tidy_empty limit
  backed := by
    intro user
    exact Nat.zero_le _

/-- There is a slot to give back for each kernel that is tracked. -/
theorem Backed.covered (h : Backed rules held f) : f.Covered where
  keyed := h.keyed
  tidy := h.tidy
  covered := by
    intro user
    exact Nat.le_trans (Nat.le_add_right _ _) (h.backed user)

/-- Nobody need hold a slot. -/
theorem Backed.less (h : Backed rules (held + others) f) : Backed rules others f where
  rules := h.rules
  keyed := h.keyed
  tidy := h.tidy
  backed := by
    intro user
    have hle := h.backed user
    rw [Multiset.count_add] at hle
    omega

/-! ## Slots that change hands

A slot is taken by whoever launches, and stays in these hands until the kernel is tracked and takes
it over, or until it is given back. What is held in all is a multiset of users, with a user for each
slot. -/

/-- What is to be shown once it is known what kernels and ledger have become. -/
theorem backed_of_becomes (hg : f.Becomes kernels l g) (hrules : f.rules = rules)
    (hkeyed : g.Keyed) (htidy : l.Tidy)
    (hbacked : ∀ user, g.tracked (ownedBy user) + held.count user ≤ l.active user) :
    Backed rules held g := by
  obtain ⟨hsame, rfl, rfl⟩ := hg
  exact ⟨hsame.trans hrules, hkeyed, htidy, hbacked⟩

theorem Backed.congr (h : Backed rules held f) (hg : f.Becomes f.kernels f.ledger g) :
    Backed rules held g := by
  refine backed_of_becomes hg h.rules (h.keyed.congr hg.kernels) h.tidy fun user => ?_
  rw [tracked_congr hg.kernels]
  exact h.backed user

theorem Backed.touch (h : Backed rules held f) (id : String) : Backed rules held (f.touch id) := by
  have hrules : (f.touch id).rules = f.rules := by
    unfold Fleet.touch
    split <;> rfl
  refine backed_of_becomes ⟨hrules, rfl, ledger_touch f id⟩ h.rules (h.keyed.touch id) h.tidy
    fun user => ?_
  rw [tracked_touch]
  exact h.backed user

/-- One slot of the user of a kernel counts for that user only. -/
theorem count_owner (h : KernelHandle) (user : String) :
    ({h.user} : Multiset String).count user = if ownedBy user h then 1 else 0 := by
  rw [Multiset.count_singleton]
  simp [ownedBy, eq_comm]

/-- A launch takes a slot. -/
theorem Backed.takes (h : Backed rules others f) {k : KernelHandle}
    (hg : f.Becomes f.kernels (f.ledger.restore k.user) g) :
    Backed rules ({k.user} + others) g := by
  refine backed_of_becomes hg h.rules (h.keyed.congr hg.kernels) (h.tidy.restore _) fun user => ?_
  have hle := h.backed user
  rw [tracked_congr hg.kernels, active_restore_owner, Multiset.count_add, count_owner]
  omega

/-- A launch that has failed gives its slot back. -/
theorem Backed.gives {k : KernelHandle} (h : Backed rules ({k.user} + others) f)
    (hg : f.Becomes f.kernels (f.ledger.release k.user) g) : Backed rules others g := by
  refine backed_of_becomes hg h.rules (h.keyed.congr hg.kernels) (h.tidy.release _) fun user => ?_
  have hle := h.backed user
  rw [Multiset.count_add, count_owner] at hle
  rw [tracked_congr hg.kernels, active_release_owner]
  omega

/-- A launch that has succeeded leaves its slot to its kernel. -/
theorem Backed.leaves {k : Tracked} (h : Backed rules ({k.handle.user} + others) f)
    (hg : f.Becomes (f.kernels.insert k.handle.id k) f.ledger g) : Backed rules others g := by
  refine backed_of_becomes hg h.rules (h.keyed.insert hg.kernels) h.tidy fun user => ?_
  have hle := h.backed user
  have hmore := tracked_le_of_insert hg.kernels (ownedBy user)
  rw [Multiset.count_add, count_owner] at hle
  omega

/-- One kernel more, whether or not its id was in use, and one slot more. -/
theorem Backed.insert (h : Backed rules held f) {k : Tracked}
    (hg : f.Becomes (f.kernels.insert k.handle.id k) (f.ledger.restore k.handle.user) g) :
    Backed rules held g := by
  exact backed_of_becomes hg h.rules (h.keyed.insert hg.kernels) (h.tidy.restore _) fun user =>
    fits_of_insert _ hg.kernels (h.backed user)

/-- Of a kernel that is no longer tracked the slot goes, whether or not more are held. -/
theorem Backed.erase (h : Backed rules held f) {id : String} {k : Tracked}
    (hget : f.kernels.get? id = some k)
    (hg : f.Becomes (f.kernels.erase id) (f.ledger.release k.handle.user) g) :
    Backed rules held g := by
  exact backed_of_becomes hg h.rules (h.keyed.erase hg.kernels) (h.tidy.release _) fun user =>
    fits_of_erase _ hg.kernels hget (h.backed user)

/-! ## Operations

For each operation the proof names what is held at each of its calls: a slot of the user while a
launch waits, and nothing while a takeover or a shutdown does. -/

/-- A launch takes a slot before the launcher is asked, and hands it to the kernel or gives it back
when the answer is there. -/
theorem guards_create (rules : FleetRules) (spec : KernelSpec) (p : LaunchParams) :
    (create spec p).Guards (Backed rules) rules.Permits 0 := by
  -- While the launcher works, the launch holds the slot of the user whom its handle names.
  refine guards_atOnce_bind (fun admitted => admitted.toOption.elim 0 fun request =>
    {request.handle.user}) (fun f others hf => ?_) fun f others hf => ?_
  · rw [zero_add] at hf
    rcases hadmit : f.admitLaunch spec p with ⟨g, e | request⟩
    · obtain ⟨reservations, metrics, rfl⟩ := admitLaunch_error hf.tidy hadmit
      show Backed rules (0 + others) _
      rw [zero_add]
      exact hf.congr ⟨rfl, rfl, rfl⟩
    · exact hf.takes (becomes_of_admitLaunch hadmit).1
  · rcases hadmit : f.admitLaunch spec p with ⟨g, e | request⟩
    · exact .done _
    · have hgrants := grants_of_admitLaunch hadmit
      rw [hf.rules] at hgrants
      refine guards_await_bind ?_ fun answer => guards_atOnce fun f others hf => ?_
      · rintro _ ⟨⟩
        exact ⟨spec, p, hgrants⟩
      · cases answer with
        | error e => exact hf.gives ⟨rfl, rfl, rfl⟩
        | ok _ => exact Backed.leaves (k := ⟨request.handle, f.now⟩) hf ⟨rfl, rfl, rfl⟩

/-- A takeover holds no slot while it waits: the kernel gets one when it is found alive. -/
theorem guards_reattach (rules : FleetRules) (limit : Option Nat) (h : KernelHandle) :
    (reattach limit h).Guards (Backed rules) rules.Permits 0 := by
  refine guards_look_bind fun f => ?_
  split
  · exact .done _
  · refine .call (FleetRules.permits_of_not_launch nofun) fun reply => ?_
    rcases reply with _ | e | _
    · exact .done _
    · exact .done _
    · refine .step (fun _ => 0) (fun f others hf => ?_) fun _ _ _ => .done _
      exact hf.insert (k := ⟨h, f.now⟩) ⟨rfl, rfl, rfl⟩

/-- A shutdown lets go of kernel and slot at once, and makes up both again if the kernel could not
be ended. -/
theorem guards_shutdown (rules : FleetRules) (id : String) :
    (shutdown id).Guards (Backed rules) rules.Permits 0 := by
  -- A shutdown holds nothing: it gives the slot back with the kernel, and takes both again.
  refine guards_atOnce_bind (fun _ => 0) (fun f others hf => ?_) fun f _ _ => ?_
  · cases hget : f.kernels.get? id with
    | none =>
      rw [beginShutdown_of_none hget]
      exact hf
    | some k =>
      rw [beginShutdown_of_some hget]
      exact hf.erase hget ⟨rfl, rfl, rfl⟩
  · rcases (f.beginShutdown id).2 with e | k
    · exact .done _
    · refine guards_await_bind (FleetRules.permits_of_not_launch nofun) fun answer =>
        guards_atOnce fun f others hf => ?_
      rw [zero_add] at hf
      cases answer with
      | error e => exact hf.insert ⟨rfl, rfl, rfl⟩
      | ok _ => exact hf

end Fleet

end KernelGate
