import KernelGate.Lifecycle.Startup

/-!
# Requests to stop, at any moment of a life

The task that runs a gateway goes from place to place: it starts, serves by running its event loop,
comes back from the loop and ends; it may fail before it serves. Requests come from elsewhere,
between any two of its steps and between any two actions of a callback. A *life* is the place of the
task together with what the requests share with it, and a run of a life keeps every passage.

There are only ten situations in which a life can be (`Settled`), and every passage leads from one
of them to another. What a run may do is read off them.

Main statements: `settled_next` (what one passage does), `settled_of_runs`, `protocol_of_runs`
(what holds of every run), `runs_prepare` and `runs_runLoop` (the start of a gateway and its loop
are passages).
-/

namespace KernelGate

/-- One phase comes right after another. -/
inductive Phase.Precedes : Phase → Phase → Prop
  | start : Precedes .uninitialized .starting
  | serve : Precedes .starting .serving
  | stop : Precedes .serving .stopRequested
  | finish : Precedes .stopRequested .stopped
  | failure : Precedes .starting .stopped

/-- Whether a request to stop may still count, now or later. -/
def Phase.unasked : Phase → Bool
  | uninitialized | starting | serving => true
  | stopRequested | stopped => false

/-- A request from outside the gateway's own task. -/
inductive Prompting where
  | hangUp
  | terminate
  | interrupt
  | stop
  deriving DecidableEq, Repr

/-- What a request does. -/
def Prompting.act : Prompting → Coordinator → Coordinator
  | hangUp, c => c.hangUp
  | terminate, c => c.terminate
  | interrupt, c => c.interrupt
  | stop, c => c.stop

/-- Where the gateway's own task is. -/
inductive Station where
  | idle
  | starting
  /-- On the event loop, with the actions of the running callback that are still to do. -/
  | looping (left : LoopCallback ListenerEffect)
  /-- The loop has come back. -/
  | leaving
  | done

/-- What may happen next. -/
inductive Happening where
  | prompting (p : Prompting)
  | start
  | failure
  | serve
  /-- The loop takes up the callback that waits in front. -/
  | takeUp
  /-- The running callback does its next action. -/
  | act
  /-- The loop comes back. -/
  | leave
  | finish
  deriving DecidableEq, Repr

/-- A gateway's life. -/
structure Life where
  place : Station
  control : Coordinator

namespace Life

/-- Before the gateway is started. -/
def initial : Life := ⟨.idle, .initial⟩

@[simp] abbrev phase (l : Life) : Phase := l.control.phase

/-- The callbacks that wait. -/
@[simp] abbrev queue (l : Life) : List (LoopCallback ListenerEffect) := l.control.loop.queue

/-- What callbacks have done. -/
@[simp] abbrev trace (l : Life) : List (LoopTrace ListenerEffect) := l.control.loop.trace

/-- What happens, where it can: a request at any place, a step of the task only where the task is.
A change of phase that is not allowed ends the life; the listener is then closed at once. -/
def next (l : Life) : Happening → Option Life
  | .prompting p => some { l with control := p.act l.control }
  | .start =>
    match l.place with
    | .idle =>
      if l.phase.allows .uninitialized then
        some ⟨.starting, l.control.move .uninitialized .starting⟩
      else some { l with place := .done }
    | _ => none
  | .failure =>
    match l.place with
    | .starting => some ⟨.done, l.control.finish⟩
    | _ => none
  | .serve =>
    match l.place with
    | .starting =>
      if l.phase.allows .starting then some ⟨.looping [], l.control.move .starting .serving⟩
      else
        let loop := l.control.loop.act (.emit .stopAccepting)
        some ⟨.done, { l.control with loop }.finish⟩
    | _ => none
  | .takeUp =>
    match l.place, l.queue with
    | .looping [], callback :: queue =>
      if l.control.loop.stopped then none
      else some ⟨.looping callback, { l.control with loop := { l.control.loop with queue } }⟩
    | _, _ => none
  | .act =>
    match l.place with
    | .looping (a :: left) =>
      some ⟨.looping left, { l.control with loop := l.control.loop.act a }⟩
    | _ => none
  | .leave =>
    match l.place with
    | .looping [] => if l.control.loop.stopped then some { l with place := .leaving } else none
    | _ => none
  | .finish =>
    match l.place with
    | .leaving => some ⟨.done, l.control.finish⟩
    | _ => none

/-- One thing that happened, with the life before and after it. -/
structure Passage where
  before : Life
  happening : Happening
  after : Life

/-- Whether a callback was put on the loop. -/
def Passage.schedules (p : Passage) : Bool := p.before.queue.length < p.after.queue.length

/-- A run, with its passages. -/
inductive Runs (first : Life) : List Passage → Life → Prop
  | refl : Runs first [] first
  | snoc {log : List Passage} {l l' : Life} {h : Happening} (run : Runs first log l)
      (happens : l.next h = some l') : Runs first (log ++ [⟨l, h, l'⟩]) l'

theorem Runs.trans {l m n : Life} {log more : List Passage} (h : Runs l log m)
    (h' : Runs m more n) : Runs l (log ++ more) n := by
  induction h' with
  | refl => simpa using h
  | snoc _ happens ih =>
    rw [← List.append_assoc]
    exact .snoc ih happens

theorem Runs.single {l l' : Life} {h : Happening} (happens : l.next h = some l') :
    Runs l [⟨l, h, l'⟩] l' :=
  .snoc .refl happens

/-! ## The situations of a life

Phase, queue and record of the loop change together. There are ten combinations in which a life can
ever be, and each of them says which happenings come next. -/

/-- All that the stop callback does. -/
def stopRecord : List (LoopTrace ListenerEffect) := [.emitted .stopAccepting, .stopAsked]

/-- The situations in which a life can be; only whether an interrupt has come is left open. -/
inductive Settled (b : Bool) : Life → Prop
  | idle : Settled b ⟨.idle, .uninitialized, .empty, b⟩
  | starting : Settled b ⟨.starting, .starting, .empty, b⟩
  | failed : Settled b ⟨.done, .stopped, .empty, b⟩
  | serving : Settled b ⟨.looping [], .serving, .empty, b⟩
  | asked : Settled b
      ⟨.looping [], .stopRequested, ⟨[Coordinator.stopCallback], false, false, []⟩, b⟩
  | takenUp : Settled b ⟨.looping Coordinator.stopCallback, .stopRequested, .empty, b⟩
  | closed : Settled b ⟨.looping [.stop], .stopRequested,
      ⟨[], false, false, [.emitted .stopAccepting]⟩, b⟩
  | ended : Settled b ⟨.looping [], .stopRequested, ⟨[], true, false, stopRecord⟩, b⟩
  | leaving : Settled b ⟨.leaving, .stopRequested, ⟨[], true, false, stopRecord⟩, b⟩
  | done : Settled b ⟨.done, .stopped, ⟨[], true, false, stopRecord⟩, b⟩

theorem settled_initial : Settled false initial := .idle

/-- A request changes nothing but whether an interrupt has come, except for the one that asks a
serving gateway to stop. -/
theorem settled_prompting {b : Bool} {l : Life} (h : Settled b l) (p : Prompting) :
    ∃ b', Settled b' ⟨l.place, p.act l.control⟩ ∧
      (p.act l.control = { l.control with interrupted := b' } ∨
        l.phase = .serving ∧ (p.act l.control).phase = .stopRequested ∧
          (p.act l.control).loop =
            { l.control.loop with queue := l.queue ++ [Coordinator.stopCallback] }) := by
  cases p with
  | hangUp =>
    exact ⟨b, by simpa [Prompting.act, Coordinator.hangUp] using h, .inl (by cases h <;> rfl)⟩
  | terminate | stop =>
    cases h with
    | serving => exact ⟨b, .asked, .inr ⟨rfl, rfl, rfl⟩⟩
    | _ => exact ⟨b, by constructor, .inl rfl⟩
  | interrupt =>
    cases b with
    | true => exact ⟨true, by cases h <;> constructor, .inl (by cases h <;> rfl)⟩
    | false =>
      cases h with
      | serving => exact ⟨true, .asked, .inr ⟨rfl, rfl, rfl⟩⟩
      | _ => exact ⟨true, by constructor, .inl rfl⟩

/-! ## What a passage does

A passage leads from one of the situations to another. With all of them listed, what it does is read
off case by case. -/

/-- What every passage of a run keeps to. -/
structure Passage.Lawful (p : Passage) : Prop where
  phase : p.after.phase = p.before.phase ∨ p.before.phase.Precedes p.after.phase
  final : p.before.phase = .stopped → p.after.phase = .stopped
  /-- Only a request to a serving gateway schedules something, and that is the stop callback. -/
  schedules : p.schedules = true → (∃ q, p.happening = .prompting q) ∧ p.before.phase = .serving ∧
    p.after.phase = .stopRequested ∧ p.after.queue = p.before.queue ++ [Coordinator.stopCallback]
  /-- What a callback does is done on the loop. -/
  deferred : p.after.trace ≠ p.before.trace → p.happening = .act
  record : p.before.trace <+: p.after.trace
  returns : p.happening = .leave → p.before.trace = stopRecord
  hangUp : p.happening = .prompting .hangUp → p.after = p.before

/-- A request changes something only if the gateway serves, and then one callback is due. -/
theorem lawful_prompting {b : Bool} {l : Life} (h : Settled b l) (p : Prompting) :
    Passage.Lawful ⟨l, .prompting p, ⟨l.place, p.act l.control⟩⟩ := by
  obtain ⟨b', -, hc | ⟨hs, hp, hl⟩⟩ := settled_prompting h p
  · constructor <;> simp [hc, Passage.schedules]
    rintro rfl
    exact congrArg (Life.mk l.place) hc.symm
  · have h1 : p ≠ .hangUp := by
      rintro rfl
      exact absurd (hs.symm.trans hp) (by decide)
    have h2 : l.control.phase = .serving := hs
    constructor <;> simp [h2, hp, hl, h1, Passage.schedules]
    exact .stop

/-- A step of the task that changes only the place and the phase. -/
theorem lawful_move {p q : Phase} {loop : EventLoop ListenerEffect} {b : Bool}
    {source target : Station} {h : Happening} (hp : p.Precedes q) (hh : ∀ r, h ≠ .prompting r)
    (hl : h ≠ .leave) :
    Passage.Lawful ⟨⟨source, p, loop, b⟩, h, ⟨target, q, loop, b⟩⟩ := by
  constructor <;> simp [hp, hh, hl, Passage.schedules]
  rintro rfl
  cases hp

/-- One passage leads from a situation to a situation, and is lawful. -/
theorem settled_next {b : Bool} {l l' : Life} {h : Happening} (hs : Settled b l)
    (happens : l.next h = some l') :
    (∃ b', Settled b' l') ∧ Passage.Lawful ⟨l, h, l'⟩ := by
  -- a step of the task is possible in one situation only, an action in two
  cases h with
  | prompting p =>
    obtain rfl : ⟨l.place, p.act l.control⟩ = l' := Option.some.inj happens
    obtain ⟨b', h1, -⟩ := settled_prompting hs p
    exact ⟨⟨b', h1⟩, lawful_prompting hs p⟩
  | start =>
    cases hs <;> cases happens
    exact ⟨⟨b, .starting⟩, lawful_move .start (by simp) (by simp)⟩
  | failure =>
    cases hs <;> cases happens
    exact ⟨⟨b, .failed⟩, lawful_move .failure (by simp) (by simp)⟩
  | serve =>
    cases hs <;> cases happens
    exact ⟨⟨b, .serving⟩, lawful_move .serve (by simp) (by simp)⟩
  | takeUp =>
    cases hs <;> cases happens
    exact ⟨⟨b, .takenUp⟩, by constructor <;> simp [Passage.schedules]⟩
  | act =>
    cases hs <;> cases happens
    · exact ⟨⟨b, .closed⟩, by constructor <;> simp [Passage.schedules, EventLoop.act]⟩
    · exact ⟨⟨b, .ended⟩, by
        constructor <;> simp [Passage.schedules, EventLoop.act, EventLoop.stop]⟩
  | leave =>
    cases hs <;> cases happens
    exact ⟨⟨b, .leaving⟩, by constructor <;> simp [Passage.schedules]⟩
  | finish =>
    cases hs <;> cases happens
    exact ⟨⟨b, .done⟩, lawful_move .finish (by simp) (by simp)⟩

/-! ## Whole runs

That the loop is asked to stop once in a life is counted from both ends: a request counts as long as
the phase says that none has counted, and never again. -/

/-- Every run leads to one of the ten situations. -/
theorem settled_of_runs {log : List Passage} {l : Life} (h : Runs initial log l) :
    ∃ b, Settled b l := by
  induction h with
  | refl => exact ⟨false, settled_initial⟩
  | snoc _ happens ih =>
    obtain ⟨b, hs⟩ := ih
    exact (settled_next hs happens).1

theorem lawful_of_runs {log : List Passage} {l : Life} (h : Runs initial log l) :
    ∀ p ∈ log, p.Lawful := by
  induction h with
  | refl => simp
  | snoc run happens ih =>
    obtain ⟨b, hs⟩ := settled_of_runs run
    simp only [List.mem_append, List.mem_singleton]
    rintro p (hp | rfl)
    · exact ih p hp
    · exact (settled_next hs happens).2

/-- A passage that schedules uses up the one request that counts. -/
theorem Passage.Lawful.schedules_add_unasked {p : Passage} (h : p.Lawful) :
    p.schedules.toNat + p.after.phase.unasked.toNat ≤ p.before.phase.unasked.toNat := by
  by_cases hs : p.schedules = true
  · obtain ⟨-, h1, h2, -⟩ := h.schedules hs
    rw [hs, h1, h2]
    decide
  · have h1 : p.after.phase.unasked.toNat ≤ p.before.phase.unasked.toNat := by
      obtain h2 | h2 := h.phase
      · exact Nat.le_of_eq (by rw [h2])
      · generalize p.after.phase = after, p.before.phase = before at h2
        cases h2 <;> decide
    simpa [hs] using h1

/-- Either no request has counted so far, or exactly one has. -/
theorem countP_schedules_add_unasked {log : List Passage} {l : Life} (h : Runs initial log l) :
    log.countP Passage.schedules + l.phase.unasked.toNat ≤ 1 := by
  induction h with
  | refl => decide
  | @snoc log l l' e run happens ih =>
    have h1 : (Passage.schedules ⟨l, e, l'⟩).toNat + l'.phase.unasked.toNat ≤
        l.phase.unasked.toNat :=
      (lawful_of_runs (.snoc run happens) ⟨l, e, l'⟩ (by simp)).schedules_add_unasked
    have h2 : [(⟨l, e, l'⟩ : Passage)].countP Passage.schedules =
        (Passage.schedules ⟨l, e, l'⟩).toNat := by
      cases hs : Passage.schedules ⟨l, e, l'⟩ <;> simp [hs]
    rw [List.countP_append, h2]
    omega

/-- What holds of a run and of the life that it leads to. -/
structure Protocol (log : List Passage) (l : Life) : Prop where
  lawful : ∀ p ∈ log, p.Lawful
  scheduled_once : log.countP Passage.schedules ≤ 1
  /-- The listener is closed and the loop asked to stop at most once each, in this order. -/
  record : l.trace <+: [.emitted .stopAccepting, .stopAsked]

/-- Whatever requests come, and wherever the gateway's own task is when they come, the phases follow
each other up to the last one, one callback at most is scheduled, by a request to a serving gateway,
and what it does is done on the loop, in order and once, before the loop comes back. -/
theorem protocol_of_runs {log : List Passage} {l : Life} (h : Runs initial log l) :
    Protocol log l where
  lawful := lawful_of_runs h
  scheduled_once := by
    have h1 := countP_schedules_add_unasked h
    omega
  record := by
    obtain ⟨b, hs⟩ := settled_of_runs h
    cases hs <;> simp [EventLoop.empty, stopRecord]

/-! ## Runs of given happenings

A run is determined by what happens in it, so that it can be computed. -/

/-- What comes of one thing happening after another, where each can. -/
theorem exists_runs {hs : List Happening} {l l' : Life} (h : hs.foldlM next l = some l') :
    ∃ log, Runs l log l' ∧ log.map Passage.happening = hs := by
  induction hs generalizing l with
  | nil =>
    obtain rfl : l = l' := Option.some.inj h
    exact ⟨[], .refl, rfl⟩
  | cons e rest ih =>
    rw [List.foldlM_cons] at h
    obtain ⟨m, hm, hrest⟩ := Option.bind_eq_some_iff.mp h
    obtain ⟨log, run, hlog⟩ := ih hrest
    exact ⟨_, (Runs.single hm).trans run, by simp [hlog]⟩

/-- The first interrupt comes too early and the second is swallowed; of the two requests to end that
come while the gateway serves, the first counts. -/
def busyLife : List Happening :=
  [.prompting .interrupt, .start, .serve, .prompting .hangUp, .prompting .interrupt,
    .prompting .terminate, .prompting .stop, .takeUp, .act, .prompting .interrupt, .act, .leave,
    .prompting .terminate, .finish, .prompting .stop]

theorem protocol_of_busyLife :
    ∃ log l, log.map Passage.happening = busyLife ∧ l.phase = .stopped ∧ l.trace = stopRecord ∧
      Protocol log l := by
  have h : busyLife.foldlM next initial =
      some ⟨.done, .stopped, ⟨[], true, false, stopRecord⟩, true⟩ := rfl
  obtain ⟨log, run, hlog⟩ := exists_runs h
  exact ⟨log, _, hlog, rfl, rfl, protocol_of_runs run⟩

/-! ## The gateway's own task

The start of a gateway and its event loop, as they are carried out, are passages of a life with no
request between them. -/

/-- The first part of a start is one passage, and where it fails a second one that ends the life. -/
theorem runs_prepare {S : Type} (c : Config) (parts : Parts S) (control : Coordinator) :
    ∃ log place, Runs ⟨.idle, control⟩ log ⟨place, (Gateway.prepare c parts control).1⟩ := by
  by_cases ha : control.phase.allows .uninitialized = true
  · have h1 : Life.next ⟨.idle, control⟩ .start =
        some ⟨.starting, control.move .uninitialized .starting⟩ := if_pos ha
    have h2 : Life.next ⟨.starting, control.move .uninitialized .starting⟩ .failure =
        some ⟨.done, (control.move .uninitialized .starting).finish⟩ := rfl
    simp only [Gateway.prepare, ha, Bool.not_true, Bool.false_eq_true, if_false]
    cases Gateway.assemble c parts with
    | error e => exact ⟨_, .done, .snoc (.single h1) h2⟩
    | ok made => exact ⟨_, .starting, .single h1⟩
  · have h1 : Life.next ⟨.idle, control⟩ .start = some ⟨.done, control⟩ := if_neg ha
    simp only [Gateway.prepare, ha, Bool.not_false, if_true]
    exact ⟨_, .done, .single h1⟩

/-- A callback does its actions one by one. -/
theorem runs_runCallback (c : Coordinator) (callback : LoopCallback ListenerEffect) :
    ∃ log, Runs ⟨.looping callback, c⟩ log
      ⟨.looping [], { c with loop := c.loop.runCallback callback }⟩ := by
  induction callback generalizing c with
  | nil => exact ⟨[], .refl⟩
  | cons a rest ih =>
    have h1 : Life.next ⟨.looping (a :: rest), c⟩ .act =
        some ⟨.looping rest, { c with loop := c.loop.act a }⟩ := rfl
    obtain ⟨log, run⟩ := ih { c with loop := c.loop.act a }
    exact ⟨_, (Runs.single h1).trans run⟩

/-- A run of the event loop consists of passages: callbacks are taken up and do their actions. -/
theorem runs_runLoop (c : Coordinator) :
    ∃ log, Runs ⟨.looping [], c⟩ log ⟨.looping [], c.runLoop⟩ := by
  obtain ⟨phase, loop, interrupted⟩ := c
  show ∃ log, Runs _ log ⟨.looping [], phase, loop.run, interrupted⟩
  fun_induction EventLoop.run loop with
  | case1 loop _ => exact ⟨[], .refl⟩
  | case2 loop _ _ => exact ⟨[], .refl⟩
  | case3 loop hstop callback rest hq ih =>
    obtain ⟨more, run'⟩ := ih
    obtain ⟨log, run⟩ := runs_runCallback ⟨phase, { loop with queue := rest }, interrupted⟩ callback
    have h1 : Life.next ⟨.looping [], phase, loop, interrupted⟩ .takeUp =
        some ⟨.looping callback, phase, { loop with queue := rest }, interrupted⟩ := by
      simp [next, hq, hstop]
    exact ⟨_, ((Runs.single h1).trans run).trans run'⟩

end Life

end KernelGate
