import KernelGate.Launcher.Conduct
import KernelGate.Lifecycle.Culling

/-!
# Rehearsals

Activities carried out against a launcher, on a clock that stands still while the gateway works and
jumps ahead while it waits. Culling in the background goes on meanwhile: each of its looks falls due
at its time, but waits until the one before it is through.
-/

namespace KernelGate

/-- Where an activity has come to a halt: at its end, or waiting until a time, if not forever. -/
inductive Halt (σ α : Type) where
  | finished (time : Nat) (a : α)
  | waiting (wake? : Option Nat) (rest : Activity σ α)

/-- How idle kernels are ended: those that are given, or those that are found. -/
abbrev Look (σ : Type) := (given? : Option (List String)) → Activity σ Nat

/-- The kernels to be taken for idle, look by look, where that is laid down beforehand. -/
abbrev IdlePlan := Option (List (List String))

/-- Culling in the background. -/
structure Patrol (σ : Type) where
  culling : Culling
  look : Look σ
  plan : IdlePlan
  /-- When the next look falls due. -/
  next : Nat
  /-- The look that is going on: when it goes on, if ever, and how. -/
  current? : Option (Option Nat × Activity σ Nat)

/-- The state of the gateway, the launcher, the clock in milliseconds, what goes on in the
background, and the idle times that a plan was asked about. -/
structure Rehearsal (L σ : Type) where
  state : σ
  launcher : L
  now : Nat
  patrols : List (Patrol σ)
  queries : List Nat

namespace Rehearsal

variable {L σ α : Type}

/-- A rehearsal that is about to begin. -/
def new (state : σ) (launcher : L) : Rehearsal L σ := ⟨state, launcher, 0, [], []⟩

/-- Begin a look: what the plan says is next, or what is found. -/
def beginLook (idle : Nat) (look : Look σ) (plan : IdlePlan) (r : Rehearsal L σ) :
    Rehearsal L σ × IdlePlan × Activity σ Nat :=
  match plan with
  | none => (r, none, look none)
  | some plan =>
    ({ r with queries := r.queries ++ [idle] }, some plan.tail, look (some (plan.headD [])))

/-- Cull in the background from now on. -/
def watch (culling : Culling) (look : Look σ) (plan : IdlePlan) (r : Rehearsal L σ) :
    Rehearsal L σ :=
  { r with patrols := r.patrols ++ [⟨culling, look, plan, r.now + culling.interval, none⟩] }

variable [Launcher L]

/-- Play an activity from a time on, up to a last moment if there is one. -/
def play (last? : Option Nat) :
    Activity σ α → (time : Nat) → Rehearsal L σ → Rehearsal L σ × Halt σ α
  | .done a, time, r => (r, .finished time a)
  | .step change next, time, r =>
    play last? (next r.state) time { r with state := change r.state }
  | .call c limit next, time, r =>
    let (launcher, conduct) := Launcher.respond r.launcher c
    let r := { r with launcher }
    match conduct.waiting limit with
    -- Nobody will ever go on from here, so what is left does not matter.
    | none => (r, .waiting none (next none))
    | some (after, reply) =>
      if last?.any (· < time + after) then (r, .waiting (some (time + after)) (next reply))
      else play last? (next reply) (time + after) r

/-- Go on with a look until the last moment; the patrol and, if the look is through, when. -/
def goOn (last : Nat) (p : Patrol σ) (look : Activity σ Nat) (time : Nat) (r : Rehearsal L σ) :
    Rehearsal L σ × Patrol σ × Option Nat :=
  match play (some last) look time r with
  | (r, .finished time _) => (r, { p with current? := none }, some time)
  | (r, .waiting wake? rest) => (r, { p with current? := some (wake?, rest) }, none)

/-- Take the looks that are due, one after the other; `free` is when the last one was through. -/
def takeLooks (last : Nat) :
    (due : Nat) → Patrol σ → (free : Nat) → Rehearsal L σ → Rehearsal L σ × Patrol σ
  | 0, p, _, r => (r, p)
  | due + 1, p, free, r =>
    let (r, plan, look) := r.beginLook p.culling.idle p.look p.plan
    -- A look that fell due while another one was going on starts when that is through.
    let start := max p.next free
    let p := { p with plan, next := p.next + p.culling.interval }
    match r.goOn last p look start with
    | (r, p, some free) => takeLooks last due p free r
    | (r, p, none) => (r, p)

/-- Let a patrol go on until a moment. -/
def follow (last : Nat) (p : Patrol σ) (r : Rehearsal L σ) : Rehearsal L σ × Patrol σ :=
  match p.current? with
  | none => takeLooks last (p.culling.dueCount p.next last) p p.next r
  | some (none, _) => (r, p)
  | some (some wake, rest) =>
    if last < wake then (r, p)
    else
      match r.goOn last p rest wake with
      | (r, p, some free) => takeLooks last (p.culling.dueCount p.next last) p free r
      | (r, p, none) => (r, p)

/-- Let patrols go on until a moment. -/
def followAll (last : Nat) : List (Patrol σ) → Rehearsal L σ → Rehearsal L σ × List (Patrol σ)
  | [], r => (r, [])
  | p :: rest, r =>
    let (r, p) := r.follow last p
    let (r, rest) := followAll last rest r
    (r, p :: rest)

/-- Let time pass until a moment. -/
def reach (time : Nat) (r : Rehearsal L σ) : Rehearsal L σ :=
  let (r, patrols) := followAll time r.patrols r
  { r with patrols, now := time }

/-- Let time pass. -/
def elapse (millis : Nat) (r : Rehearsal L σ) : Rehearsal L σ := r.reach (r.now + millis)

/-- Carry out an activity to its end; no value where it waits forever. -/
def perform : Activity σ α → Rehearsal L σ → Rehearsal L σ × Option α
  | .done a, r => (r, some a)
  | .step change next, r => perform (next r.state) { r with state := change r.state }
  | .call c limit next, r =>
    let (launcher, conduct) := Launcher.respond r.launcher c
    let r := { r with launcher }
    match conduct.waiting limit with
    | none => (r, none)
    | some (after, reply) =>
      perform (next reply) (if after = 0 then r else r.reach (r.now + after))

/-- Take one look, not in the background. -/
def lookOnce (idle : Nat) (look : Look σ) (plan : IdlePlan) (r : Rehearsal L σ) :
    Rehearsal L σ × Option Nat :=
  let (r, _, look) := r.beginLook idle look plan
  r.perform look

/-- Let the looks that are going on come to their end; whether they do. -/
def finishLooks : List (Patrol σ) → Rehearsal L σ → Rehearsal L σ × Bool
  | [], r => (r, true)
  | p :: rest, r =>
    match p.current? with
    | none => finishLooks rest r
    | some (none, _) => (r, false)
    | some (some wake, look) =>
      match play none look (max wake r.now) r with
      | (r, .finished time _) => finishLooks rest { r with now := max r.now time }
      | (r, .waiting _ _) => (r, false)

/-- Stop culling in the background; looks that are going on come to their end first, if they
do. -/
def dismiss (r : Rehearsal L σ) : Rehearsal L σ × Bool :=
  finishLooks r.patrols { r with patrols := [] }

end Rehearsal

end KernelGate
