import KernelGate.Proofs.Activity.History
import KernelGate.Proofs.Activity.Zoom
import Mathlib.Algebra.Group.Basic

/-!
# What is held by those who wait

An activity may hold something while it waits, such as a slot that it has taken and will use or give
back. An invariant that takes into account what is held by all who wait holds of every state that a
pool comes to, if each activity keeps it whatever the others hold. Whoever is given up no longer
holds anything, and an invariant must bear that. Where the invariant holds, an activity may be known
to make calls of a certain kind only.

Main statements: `Guards.bind` and the lemmas beside it (how activities that keep an invariant are
put together), `Pool.secure_enter`, `Pool.secure_answered` and `Pool.secure_givenUp` (what happens
to a pool keeps it), `Pool.secure_of_runs` (so does a run, which makes calls of that kind only),
`Guards.ends` (so does an activity that runs alone).
-/

namespace KernelGate

variable {σ τ α β ρ : Type} [AddCommMonoid ρ]

namespace Activity

/-- An activity that holds this keeps an invariant, whatever others hold, and makes calls of a kind
only. -/
inductive Guards (Inv : ρ → σ → Prop) (Kind : LauncherCall → Prop) : ρ → Activity σ α → Prop where
  | done {held : ρ} (x : α) : Guards Inv Kind held (.done x)
  | step {held : ρ} {change : σ → σ} {next : σ → Activity σ α} (now : σ → ρ) :
      (∀ s others, Inv (held + others) s → Inv (now s + others) (change s)) →
      (∀ s others, Inv (held + others) s → Guards Inv Kind (now s) (next s)) →
      Guards Inv Kind held (.step change next)
  | call {held : ρ} {c : LauncherCall} {limit : Option Nat} {next : Reply → Activity σ α} :
      Kind c → (∀ reply, Guards Inv Kind held (next reply)) →
      Guards Inv Kind held (.call c limit next)

variable {Inv : ρ → σ → Prop} {Kind : LauncherCall → Prop} {held : ρ} {a : Activity σ α}

/-! ## Putting activities together

An activity that keeps an invariant is put together as it was written: a lemma for each way of
making one says what is to be shown of its parts. What is held when a part ends is what the next
part begins with, so that the proof goes along the text of the activity and names what is held at
each call. -/

/-- To hold more does no harm. -/
theorem Guards.frame (h : a.Guards Inv Kind held) (more : ρ) :
    a.Guards Inv Kind (held + more) := by
  induction h with
  | done x => exact .done x
  | step now hchange _ ih =>
    refine .step (fun s => now s + more) (fun s others hs => ?_) fun s others hs => ?_
    · rw [add_assoc] at hs ⊢
      exact hchange s _ hs
    · rw [add_assoc] at hs
      exact ih s _ hs
  | call hkind _ ih => exact .call hkind ih

/-- What follows need hold nothing. -/
theorem Guards.bind {f : α → Activity σ β} (ha : a.Guards Inv Kind held)
    (hf : ∀ x, (f x).Guards Inv Kind 0) : (a.bind f).Guards Inv Kind held := by
  induction ha with
  | @done held x =>
    have hframe := (hf x).frame held
    rwa [zero_add] at hframe
  | step now hchange _ ih => exact .step now hchange ih
  | call hkind _ ih => exact .call hkind ih

/-- A step may take something into its hands, or let go of it, for what comes next to go on with. -/
theorem guards_atOnce_bind {f : σ → σ × α} {next : α → Activity σ β} (now : α → ρ)
    (hf : ∀ s others, Inv (held + others) s → Inv (now (f s).2 + others) (f s).1)
    (hnext : ∀ s others, Inv (held + others) s →
      (next (f s).2).Guards Inv Kind (now (f s).2)) :
    ((atOnce f).bind next).Guards Inv Kind held :=
  .step (fun s => now (f s).2) hf hnext

/-- A step at the end lets go of whatever is held. -/
theorem guards_atOnce {f : σ → σ × α}
    (hf : ∀ s others, Inv (held + others) s → Inv others (f s).1) :
    (atOnce f).Guards Inv Kind held := by
  refine .step (fun _ => 0) (fun s others hs => ?_) fun _ _ _ => .done _
  rw [zero_add]
  exact hf s others hs

/-- A wait changes nothing about what is held. What comes next has to keep the invariant whatever
the answer is, and the call is to be of the kind that is allowed. -/
theorem guards_await_bind {c : LauncherCall} {next : Result Unit → Activity σ α} (hkind : Kind c)
    (h : ∀ answer, (next answer).Guards Inv Kind held) :
    ((await c).bind next).Guards Inv Kind held :=
  .call hkind fun _ => h _

/-- A step that takes or lets go of nothing. -/
theorem guards_change_bind {f : σ → σ} {next : Unit → Activity σ α}
    (hf : ∀ s others, Inv others s → Inv others (f s)) (hnext : (next ()).Guards Inv Kind held) :
    ((change f).bind next).Guards Inv Kind held :=
  .step (fun _ => held) (fun s _ => hf s _) fun _ _ _ => hnext

/-- Looking at the state needs nothing to be shown. -/
theorem guards_look_bind {next : σ → Activity σ α} (h : ∀ s, (next s).Guards Inv Kind held) :
    (look.bind next).Guards Inv Kind held :=
  .step (fun _ => held) (fun _ _ hs => hs) fun s _ _ => h s

/-- An activity on a part of the state, where the invariant is one of that part and of the rest. -/
theorem Guards.zoom {part : σ → τ} {put : σ → τ → σ} {Part : ρ → τ → Prop}
    (hpart : ∀ {s before}, Inv before s → Part before (part s))
    (hput : ∀ {s t now before}, Part now t → Inv before s → Inv now (put s t))
    {a : Activity τ α} (h : a.Guards Part Kind held) : (a.zoom part put).Guards Inv Kind held := by
  induction h with
  | done x => exact .done x
  | step now hchange _ ih =>
    refine .step (fun s => now (part s)) (fun s others hs => ?_) fun s others hs => ?_
    · exact hput (hchange (part s) others (hpart hs)) hs
    · exact ih (part s) others (hpart hs)
  | call hkind _ ih => exact .call hkind ih

/-! ## Running alone

While an activity that runs alone waits, the state may drift. The invariant is then kept as long as
the drift keeps it, and nothing is held in the end. -/

/-- An activity that runs alone keeps the invariant. -/
theorem Guards.ends {drift : σ → σ → Prop} {s t : σ} {calls : Calls} {x : α} {others : ρ}
    (hless : ∀ {held others s}, Inv (held + others) s → Inv others s)
    (hdrift : ∀ {held s t}, drift s t → Inv held s → Inv held t)
    (ha : a.Guards Inv Kind held) (h : a.Ends drift s calls t x) (hs : Inv (held + others) s) :
    Inv others t := by
  induction h generalizing held with
  | done a s => exact hless hs
  | step _ ih =>
    cases ha with
    | step now hchange hnext => exact ih (hnext _ _ hs) (hchange _ _ hs)
  | call hpasses _ _ ih =>
    cases ha with
    | call _ hnext => exact ih (hnext _) (hdrift hpasses hs)

end Activity

namespace Pool

open Activity

/-- All of this is held by those who wait, and they wait for calls of a kind. -/
inductive Holds (Inv : ρ → σ → Prop) (Kind : LauncherCall → Prop) :
    ρ → List (Waiting σ α) → Prop where
  | nil : Holds Inv Kind 0 []
  | cons {held others : ρ} {w : Waiting σ α} {rest : List (Waiting σ α)} :
      Kind w.call → (∀ reply, (w.next reply).Guards Inv Kind held) → Holds Inv Kind others rest →
      Holds Inv Kind (held + others) (w :: rest)

/-- The state of a pool keeps an invariant, what is held taken into account, and all calls that wait
are of a kind. -/
def Secure (Inv : ρ → σ → Prop) (Kind : LauncherCall → Prop) (p : Pool σ α) : Prop :=
  ∃ held, Holds Inv Kind held p.waiting ∧ Inv held p.state

variable {Inv : ρ → σ → Prop} {Kind : LauncherCall → Prop} {held others : ρ} {s t : σ}
  {a : Activity σ α} {p q : Pool σ α} {w : Waiting σ α} {l m : List (Waiting σ α)}

/-! ## Those who wait

A pool is secure if the invariant holds of its state with all that those who wait hold between them,
and each of them keeps it when it goes on. The order in which they wait plays no part: what is held
is a sum. -/

/-- What two groups hold that wait side by side is what either holds. -/
theorem Holds.append (hl : Holds Inv Kind held l) (hm : Holds Inv Kind others m) :
    Holds Inv Kind (held + others) (l ++ m) := by
  induction hl with
  | nil => rwa [zero_add]
  | cons hkind hw _ ih =>
    rw [add_assoc]
    exact .cons hkind hw ih

theorem Holds.perm (h : Holds Inv Kind held l) (hperm : l.Perm m) : Holds Inv Kind held m := by
  induction hperm generalizing held with
  | nil => exact h
  | cons w _ ih =>
    cases h with
    | cons hkind hw hrest => exact .cons hkind hw (ih hrest)
  | swap w v rest =>
    cases h with
    | cons hkind hv hrest =>
      cases hrest with
      | cons hkind' hw hrest =>
        rw [add_left_comm]
        exact .cons hkind' hw (.cons hkind hv hrest)
  | trans _ _ ih ih' => exact ih' (ih h)

/-- Whoever waits made a call of the kind that is allowed. -/
theorem Holds.kind (h : Holds Inv Kind held l) : ∀ w ∈ l, Kind w.call := by
  induction h with
  | nil => exact List.forall_mem_nil _
  | cons hkind _ _ ih => exact List.forall_mem_cons.2 ⟨hkind, ih⟩

theorem Secure.kind (h : Secure Inv Kind p) : ∀ w ∈ p.waiting, Kind w.call := by
  obtain ⟨held, hwaiting, -⟩ := h
  exact hwaiting.kind

/-- Nobody who waits holds anything where nobody waits. -/
theorem Secure.quiet (h : Inv 0 s) : Secure Inv Kind (quiet (α := α) s) := ⟨0, .nil, h⟩

theorem Secure.perm (h : Secure Inv Kind ⟨s, l⟩) (hperm : l.Perm m) : Secure Inv Kind ⟨s, m⟩ := by
  obtain ⟨held, hwaiting, hs⟩ := h
  exact ⟨held, hwaiting.perm hperm, hs⟩

/-- The state has changed, and nobody took part in it. -/
theorem Secure.change (h : Secure Inv Kind ⟨s, l⟩) (ht : ∀ held, Inv held s → Inv held t) :
    Secure Inv Kind ⟨t, l⟩ := by
  obtain ⟨held, hwaiting, hs⟩ := h
  exact ⟨held, hwaiting, ht held hs⟩

/-! ## What happens to a pool

One lemma for each thing that can happen: an activity begins, gets its answer, or is given up. In
each case one activity is taken out of those who wait, goes on in the state as it is, and may wait
again behind the others. -/

section

variable (hless : ∀ {held others s}, Inv (held + others) s → Inv others s)

include hless

/-- The state of a pool keeps the invariant even if nobody held anything. -/
theorem Secure.state (h : Secure Inv Kind p) : Inv 0 p.state := by
  obtain ⟨held, -, hs⟩ := h
  rw [← add_zero held] at hs
  exact hless hs

/-- An activity that goes on with something in its hands keeps what the others hold. -/
theorem secure_enter_of_guards (ha : a.Guards Inv Kind held) (hs : Inv (held + others) s)
    (hl : Holds Inv Kind others l) : Secure Inv Kind (enter ⟨s, l⟩ a) := by
  -- Step by step what is held changes hands; at the first call it goes to the one who now waits.
  induction ha generalizing s with
  | done x => exact ⟨others, hl, hless hs⟩
  | step now hchange _ ih => exact ih s others hs (hchange s others hs)
  | @call held c limit next hkind hnext _ =>
    refine ⟨others + (held + 0), hl.append (.cons hkind hnext .nil), ?_⟩
    rwa [add_zero, add_comm]

/-- An activity that begins has nothing in its hands. -/
theorem secure_enter (ha : a.Guards Inv Kind 0) (h : Secure Inv Kind p) :
    Secure Inv Kind (p.enter a) := by
  obtain ⟨held, hwaiting, hs⟩ := h
  refine secure_enter_of_guards hless ha ?_ hwaiting
  rwa [zero_add]

/-- Whoever is answered goes on with what it holds. -/
theorem secure_answered {reply : Reply} (h : Secure Inv Kind ⟨s, l ++ w :: m⟩) :
    Secure Inv Kind (enter ⟨s, l ++ m⟩ (w.next reply)) := by
  obtain ⟨held, hwaiting, hs⟩ := h.perm List.perm_middle
  cases hwaiting with
  | cons _ hw hrest => exact secure_enter_of_guards hless (hw reply) hs hrest

/-- Whoever is given up no longer holds anything. The state stays as it is, so that the invariant
has to bear with less being held. -/
theorem secure_givenUp (h : Secure Inv Kind ⟨s, l ++ w :: m⟩) : Secure Inv Kind ⟨s, l ++ m⟩ := by
  obtain ⟨held, hwaiting, hs⟩ := h.perm List.perm_middle
  -- What it held is lost: nobody will use it or give it back.
  cases hwaiting with
  | cons _ _ hrest => exact ⟨_, hrest, hless hs⟩

/-- A run keeps the invariant, and all its calls are of that kind. -/
theorem secure_of_runs {May : History → Pool σ α → Activity σ α → Prop} {log : History}
    (hmay : ∀ {log p a}, May log p a → a.Guards Inv Kind 0) (hp : Secure Inv Kind p)
    (h : Runs May p log q) : Secure Inv Kind q ∧ ∀ e ∈ log, Kind e.1 := by
  induction h with
  | refl => exact ⟨hp, List.forall_mem_nil _⟩
  | begins _ ha ih => exact ⟨secure_enter hless (hmay ha) ih.1, ih.2⟩
  | answered _ _ ih =>
    refine ⟨secure_answered hless ih.1, List.forall_mem_append.2 ⟨ih.2, ?_⟩⟩
    exact List.forall_mem_singleton.2 (ih.1.kind _ (List.mem_append_cons_self))
  | givenUp _ ih =>
    refine ⟨secure_givenUp hless ih.1, List.forall_mem_append.2 ⟨ih.2, ?_⟩⟩
    exact List.forall_mem_singleton.2 (ih.1.kind _ (List.mem_append_cons_self))

end

end Pool

end KernelGate
