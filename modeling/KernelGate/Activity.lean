import KernelGate.Kernel.Launch

/-!
# Activities

An activity is one run of an operation: steps on a shared state, each taken at once, and calls to a
launcher, at which the activity waits and others may go on. Since the waiting is part of the data,
the same activity can be run alone, in turn with others, under a clock, or be given up while it
waits.

Main statements: `bind_assoc` and `bind_done` (activities in sequence), `run_bind` (running a
sequence is running its parts one after the other).
-/

namespace KernelGate

/-- The answer to a call; none where the time that was allowed is over. -/
abbrev Reply := Option (Result Unit)

/-- A run of an operation on a state `σ` that ends with an `α`. -/
inductive Activity (σ α : Type) where
  | done (a : α)
  /-- Change the state at once, and go on with what it was before. -/
  | step (change : σ → σ) (next : σ → Activity σ α)
  /-- Wait for the answer to a call, for as long as it takes or up to a limit. -/
  | call (c : LauncherCall) (limit : Option Nat) (next : Reply → Activity σ α)

namespace Activity

variable {σ τ α β γ : Type}

/-- Go on with the result of an activity. -/
def bind : Activity σ α → (α → Activity σ β) → Activity σ β
  | done a, f => f a
  | step change next, f => step change fun s => (next s).bind f
  | call c limit next, f => call c limit fun r => (next r).bind f

instance : Monad (Activity σ) where
  pure := done
  bind := bind

/-- Take a step that gives a value. -/
def atOnce (f : σ → σ × α) : Activity σ α := step (fun s => (f s).1) fun s => done (f s).2

/-- Look at the state. -/
def look : Activity σ σ := step id done

/-- Change the state. -/
def change (f : σ → σ) : Activity σ Unit := step f fun _ => done ()

/-- Call the launcher and wait for its answer. -/
def await (c : LauncherCall) : Activity σ (Result Unit) :=
  call c none fun r => done (r.getD (.error (.recovery .timedOut)))

/-- An activity on a part of the state. -/
def zoom (part : σ → τ) (put : σ → τ → σ) : Activity τ α → Activity σ α
  | done a => done a
  | step change next =>
    step (fun s => put s (change (part s))) fun s => zoom part put (next (part s))
  | call c limit next => call c limit fun r => zoom part put (next r)

/-! ## Running -/

/-- Where an activity stops: at its end, or at a call. -/
inductive Stop (σ α : Type) where
  | finished (a : α)
  | waiting (c : LauncherCall) (limit : Option Nat) (next : Reply → Activity σ α)

/-- Go on to the next call or to the end. -/
def advance : Activity σ α → σ → σ × Stop σ α
  | done a, s => (s, .finished a)
  | step change next, s => (next s).advance (change s)
  | call c limit next, s => (s, .waiting c limit next)

/-- Run an activity alone, with the answers that a launcher with a state of its own gives. -/
def run {ω : Type} (answer : ω → LauncherCall → Option Nat → ω × Reply) :
    Activity σ α → ω → σ → ω × σ × α
  | done a, w, s => (w, s, a)
  | step change next, w, s => (next s).run answer w (change s)
  | call c limit next, w, s => (next (answer w c limit).2).run answer (answer w c limit).1 s

/-! ## Laws -/

@[simp] theorem bind_done (a : Activity σ α) : a.bind done = a := by
  induction a with
  | done a => rfl
  | step change next ih => simp [bind, ih]
  | call c limit next ih => simp [bind, ih]

theorem bind_assoc (a : Activity σ α) (f : α → Activity σ β) (g : β → Activity σ γ) :
    (a.bind f).bind g = a.bind fun x => (f x).bind g := by
  induction a with
  | done a => rfl
  | step change next ih => simp [bind, ih]
  | call c limit next ih => simp [bind, ih]

theorem run_bind {ω : Type} (answer : ω → LauncherCall → Option Nat → ω × Reply)
    (a : Activity σ α) (f : α → Activity σ β) (w : ω) (s : σ) :
    (a.bind f).run answer w s =
      (f (a.run answer w s).2.2).run answer (a.run answer w s).1 (a.run answer w s).2.1 := by
  induction a generalizing w s with
  | done a => rfl
  | step change next ih => simp [bind, run, ih]
  | call c limit next ih => simp [bind, run, ih]

end Activity

end KernelGate
