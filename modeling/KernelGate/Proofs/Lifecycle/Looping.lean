import KernelGate.Lifecycle.EventLoop
import Mathlib.Data.List.Infix

/-!
# The order of callbacks

A loop is used by scheduling callbacks on it, asking it to stop, running it as often as one likes,
and letting it go. The history of such a use says when each callback was scheduled, when it began
and ended, and what it did. Callbacks extend the queue while it is being emptied; still every run
ends, and the callbacks begin in the order in which they were scheduled, one at a time and each to
its end.

What a history may look like is put down as a machine that reads it event by event (`Watch`), and
that knows the loop only by what it has read.

Main statements: `serves_run` (a run takes callbacks from the front), `follows_execution` (one
callback), `follows_serves` (one run), `follows_history` (a whole use), `orderly_history` (what that
says of callbacks).
-/

namespace KernelGate

variable {α : Type}

/-- What is done with a loop from outside. -/
inductive LoopStep (α : Type) where
  | schedule (callback : LoopCallback α)
  | stop
  /-- Run until the loop is asked to stop, or until it would wait; a run that waits is given up. -/
  | run
  | drop

/-- What happens to a loop. -/
inductive LoopEvent (α : Type) where
  | scheduled (callback : LoopCallback α)
  | stopAsked
  | dropped
  | runBegan
  | runEnded
  | began (callback : LoopCallback α)
  | ended
  | emitted (v : α)

/-- An action, as it shows in a history. -/
def LoopAction.event : LoopAction α → LoopEvent α
  | .emit v => .emitted v
  | .stop => .stopAsked
  | .schedule callback => .scheduled callback

namespace EventLoop

/-! ## Histories

A run is executed by the loop on its own queue, which callbacks may add to. What it executes is
listed beside it, by the same recursion, so that the history of a run can be told from the outside.
-/

/-- Take the callback in front from the queue, and do its actions. -/
def serve (l : EventLoop α) (callback : LoopCallback α) (rest : List (LoopCallback α)) :
    EventLoop α :=
  EventLoop.runCallback { l with queue := rest } callback

/-- The callbacks that a run executes, one after another. -/
def executed (l : EventLoop α) : List (LoopCallback α) :=
  if l.stopped then []
  else
    match _h : l.queue with
    | [] => []
    | callback :: rest => callback :: executed (l.serve callback rest)
termination_by l.weight
decreasing_by
  have h1 := weight_runCallback { l with queue := rest } callback
  have h2 : l.weight = callbackWeight callback + queueWeight rest := by
    simp [weight, _h, queueWeight]
  simp only [weight, serve] at h1 h2 ⊢
  omega

theorem run_of_idle {l : EventLoop α} (h : l.queue = []) : l.run = l := by
  rw [run]
  split
  · rfl
  · split
    · rfl
    · next heq => rw [h] at heq; cases heq

/-- A loop that was asked to stop executes nothing more. -/
theorem executed_of_stopped {l : EventLoop α} (h : l.stopped = true) : l.executed = [] := by
  rw [executed, if_pos h]

/-- A loop that takes callbacks from the front of its queue, one after another, and stops where it
is asked to or where none is left. -/
inductive Serves : EventLoop α → List (LoopCallback α) → EventLoop α → Prop where
  | ends {l : EventLoop α} : l.stopped = true ∨ l.queue = [] → Serves l [] l
  | takes {l m : EventLoop α} {callback : LoopCallback α} {rest callbacks : List (LoopCallback α)} :
      l.stopped = false → l.queue = callback :: rest → Serves (l.serve callback rest) callbacks m →
      Serves l (callback :: callbacks) m

/-- A run takes callbacks from the front until it was asked to stop or none is left. -/
theorem serves_run (l : EventLoop α) : Serves l l.executed l.run := by
  fun_induction executed l with
  | case1 l hstopped =>
    rw [run_of_stopped hstopped]
    exact .ends (.inl hstopped)
  | case2 l hgoing hqueue =>
    rw [run_of_idle hqueue]
    exact .ends (.inr hqueue)
  | case3 l hgoing callback rest hqueue ih =>
    have hrun : l.run = (l.serve callback rest).run := by
      rw [run, if_neg hgoing]
      split
      · next heq => rw [hqueue] at heq; cases heq
      · next heq =>
        obtain ⟨rfl, rfl⟩ := List.cons.inj (hqueue.symm.trans heq)
        rfl
    rw [hrun]
    exact .takes (by simpa using hgoing) hqueue ih

section

variable {l m : EventLoop α} {callbacks : List (LoopCallback α)}

/-- A run executes no more callbacks than there are actions that wait. -/
theorem Serves.length_le (h : Serves l callbacks m) : callbacks.length ≤ l.weight := by
  induction h with
  | ends => exact Nat.zero_le _
  | @takes l m callback rest callbacks _ hqueue _ ih =>
    have hless := weight_runCallback { l with queue := rest } callback
    have hweight : l.weight = callbackWeight callback + queueWeight rest := by
      simp [weight, hqueue, queueWeight]
    simp only [weight, serve] at ih hless
    rw [List.length_cons, hweight]
    omega

/-- A run ends because it was asked to, or waits for callbacks. -/
theorem Serves.ended (h : Serves l callbacks m) : m.stopped = true ∨ m.queue = [] := by
  induction h with
  | ends hend => exact hend
  | takes _ _ _ ih => exact ih

theorem gone_act (l : EventLoop α) (a : LoopAction α) : (l.act a).gone = l.gone := by
  cases a with
  | emit v => rfl
  | stop => rfl
  | schedule callback =>
    simp only [act, schedule]
    split <;> rfl

/-- No callback lets the loop go that executes it. -/
theorem gone_runCallback (l : EventLoop α) (callback : LoopCallback α) :
    (l.runCallback callback).gone = l.gone := by
  induction callback generalizing l with
  | nil => rfl
  | cons a rest ih => exact (ih (l.act a)).trans (gone_act l a)

theorem Serves.gone (h : Serves l callbacks m) : m.gone = l.gone := by
  induction h with
  | ends => rfl
  | @takes l m callback rest _ _ _ _ ih => exact ih.trans (gone_runCallback _ callback)

end

/-- Do one thing with a loop. -/
def take (l : EventLoop α) : LoopStep α → EventLoop α
  | .schedule callback => l.schedule callback
  | .stop => l.stop
  | .run => l.run
  | .drop => l.drop

/-- A loop after a use. -/
def after (l : EventLoop α) (steps : List (LoopStep α)) : EventLoop α := steps.foldl take l

/-- A callback that is executed, from its beginning to its end. -/
def execution (callback : LoopCallback α) : List (LoopEvent α) :=
  .began callback :: (callback.map LoopAction.event ++ [.ended])

end EventLoop

open EventLoop

/-- What happens in one step; a loop that is gone cannot be run. -/
def LoopStep.events (l : EventLoop α) : LoopStep α → List (LoopEvent α)
  | .schedule callback => [.scheduled callback]
  | .stop => [.stopAsked]
  | .run => if l.gone then [] else .runBegan :: (l.executed.flatMap execution ++ [.runEnded])
  | .drop => [.dropped]

namespace LoopEvent

/-- The callbacks that were scheduled, in that order. -/
def scheduledIn (log : List (LoopEvent α)) : List (LoopCallback α) :=
  log.filterMap fun
    | scheduled callback => some callback
    | _ => none

/-- The callbacks that began, in that order. -/
def begunIn (log : List (LoopEvent α)) : List (LoopCallback α) :=
  log.filterMap fun
    | began callback => some callback
    | _ => none

/-- What is left on record of a history. -/
def traceOf (log : List (LoopEvent α)) : List (LoopTrace α) :=
  log.filterMap fun
    | emitted v => some (.emitted v)
    | stopAsked => some .stopAsked
    | _ => none

/-- A run has begun and not ended. -/
def Running (log : List (LoopEvent α)) : Prop :=
  ∃ before amid, log = before ++ runBegan :: amid ∧ runEnded ∉ amid

end LoopEvent

namespace EventLoop

open LoopEvent

/-- The history of a use. -/
def history (l : EventLoop α) : List (LoopStep α) → List (LoopEvent α)
  | [] => []
  | step :: rest => step.events l ++ history (l.take step) rest

/-! ## A watch over the loop

The watch reads a history event by event. It knows which callbacks wait and whether the loop was
asked to stop from the events alone, and an event may come next only if the watch says so. So what
holds of all histories that a watch lets pass is shown without looking at a loop. -/

/-- What the loop is at. -/
inductive Occupation (α : Type) where
  | outside
  /-- In a run, between two callbacks. -/
  | between
  /-- In a callback, of which some actions are left. -/
  | inside (left : LoopCallback α)

/-- What can be known of a loop from what happened. -/
structure Watch (α : Type) where
  waiting : List (LoopCallback α)
  stopped : Bool
  gone : Bool
  work : Occupation α

/-- Nothing has happened yet. -/
def Watch.opened : Watch α := ⟨[], false, false, .outside⟩

/-- The events that may come next, and what is known after them. A callback begins only in a run
that has not been asked to stop, when it is the first of those that wait and no other one is being
executed; then its own actions come, all of them. -/
inductive Notes : Watch α → LoopEvent α → Watch α → Prop where
  | scheduled {waiting stopped gone callback} :
      Notes ⟨waiting, stopped, gone, .outside⟩ (.scheduled callback)
        ⟨waiting ++ [callback], stopped, gone, .outside⟩
  | stopAsked {waiting stopped gone} :
      Notes ⟨waiting, stopped, gone, .outside⟩ .stopAsked ⟨waiting, true, gone, .outside⟩
  | dropped {waiting stopped gone} :
      Notes ⟨waiting, stopped, gone, .outside⟩ .dropped ⟨waiting, stopped, true, .outside⟩
  | runBegan {waiting stopped} :
      Notes ⟨waiting, stopped, false, .outside⟩ .runBegan ⟨waiting, stopped, false, .between⟩
  | runEnded {waiting stopped} : stopped = true ∨ waiting = [] →
      Notes ⟨waiting, stopped, false, .between⟩ .runEnded ⟨waiting, stopped, false, .outside⟩
  | began {waiting callback} :
      Notes ⟨callback :: waiting, false, false, .between⟩ (.began callback)
        ⟨waiting, false, false, .inside callback⟩
  | emits {waiting stopped gone v left} :
      Notes ⟨waiting, stopped, gone, .inside (.emit v :: left)⟩ (.emitted v)
        ⟨waiting, stopped, gone, .inside left⟩
  | stops {waiting stopped gone left} :
      Notes ⟨waiting, stopped, gone, .inside (.stop :: left)⟩ .stopAsked
        ⟨waiting, true, gone, .inside left⟩
  | schedules {waiting stopped gone callback left} :
      Notes ⟨waiting, stopped, gone, .inside (.schedule callback :: left)⟩ (.scheduled callback)
        ⟨waiting ++ [callback], stopped, gone, .inside left⟩
  | ended {waiting stopped gone} :
      Notes ⟨waiting, stopped, gone, .inside []⟩ .ended ⟨waiting, stopped, gone, .between⟩

/-- A history that may be, and what is known after it. -/
inductive Follows : Watch α → List (LoopEvent α) → Watch α → Prop where
  | nil {w : Watch α} : Follows w [] w
  | cons {u v w : Watch α} {e : LoopEvent α} {log : List (LoopEvent α)} :
      Notes u e v → Follows v log w → Follows u (e :: log) w

variable {u v w : Watch α} {e : LoopEvent α} {log past future : List (LoopEvent α)}

/-- Histories may be put together where the watch is the same. -/
theorem Follows.append (hpast : Follows u past v) (hfuture : Follows v future w) :
    Follows u (past ++ future) w := by
  induction hpast with
  | nil => exact hfuture
  | cons hnote _ ih => exact .cons hnote (ih hfuture)

/-- And they may be taken apart at any moment. -/
theorem Follows.split (h : Follows u (past ++ future) w) :
    ∃ v, Follows u past v ∧ Follows v future w := by
  induction past generalizing u with
  | nil => exact ⟨u, .nil, h⟩
  | cons e rest ih =>
    obtain _ | ⟨hnote, hrest⟩ := h
    obtain ⟨v, hpast, hfuture⟩ := ih hrest
    exact ⟨v, .cons hnote hpast, hfuture⟩

theorem Follows.single (h : Notes u e v) : Follows u [e] v := .cons h .nil

/-! ## What a history that may be looks like

Order, stops and the wholeness of executions, each by induction on the events that the watch has let
pass. -/

/-- Callbacks begin in the order in which they were scheduled. -/
theorem Follows.waiting (h : Follows u log w) :
    u.waiting ++ scheduledIn log = begunIn log ++ w.waiting := by
  induction h with
  | nil => simp [scheduledIn, begunIn]
  | cons hnote _ ih =>
    cases hnote <;> simp_all [scheduledIn, begunIn]

/-- No callback begins once the loop has been asked to stop. -/
theorem Follows.stopped (h : Follows u log w) (hu : u.stopped = true) : begunIn log = [] := by
  induction h with
  | nil => rfl
  | cons hnote _ ih => cases hnote <;> simp_all [begunIn]

/-- A loop is stopped once it was asked to, and stays so. -/
theorem Follows.stopped_iff (h : Follows u log w) :
    w.stopped = true ↔ u.stopped = true ∨ .stopAsked ∈ log := by
  induction h with
  | nil => simp
  | cons hnote _ ih => cases hnote <;> simp_all

theorem Follows.gone_iff (h : Follows u log w) :
    w.gone = true ↔ u.gone = true ∨ .dropped ∈ log := by
  induction h with
  | nil => simp
  | cons hnote _ ih => cases hnote <;> simp_all

/-- What is left of a callback is done before anything else. -/
theorem Follows.finishes (h : Follows u log w) {left : LoopCallback α} (hu : u.work = .inside left)
    (hw : w.work = .outside) :
    ∃ rest, log = left.map LoopAction.event ++ .ended :: rest := by
  induction left generalizing u log with
  | nil =>
    cases h with
    | nil => rw [hu] at hw; cases hw
    | cons hnote hrest =>
      cases hnote <;> cases hu
      exact ⟨_, rfl⟩
  | cons a left ih =>
    cases h with
    | nil => rw [hu] at hw; cases hw
    | cons hnote hrest =>
      cases hnote <;> cases hu <;>
      · obtain ⟨rest, rfl⟩ := ih hrest rfl
        exact ⟨rest, rfl⟩

/-- A loop is at work only while it is being run. -/
theorem Follows.running (h : Follows u log w) (hw : w.work ≠ .outside) :
    Running log ∨ u.work ≠ .outside ∧ .runEnded ∉ log := by
  induction h with
  | nil => exact .inr ⟨hw, by simp⟩
  | @cons u v w e log hnote _ ih =>
    obtain ⟨before, amid, rfl, hamid⟩ | ⟨hat, hended⟩ := ih hw
    · exact .inl ⟨e :: before, amid, rfl, hamid⟩
    · cases hnote with
      | runBegan => exact .inl ⟨[], _, rfl, hended⟩
      | scheduled => exact absurd rfl hat
      | stopAsked => exact absurd rfl hat
      | dropped => exact absurd rfl hat
      | runEnded => exact absurd rfl hat
      | began => exact .inr ⟨by simp, by simpa using hended⟩
      | emits => exact .inr ⟨by simp, by simpa using hended⟩
      | stops => exact .inr ⟨by simp, by simpa using hended⟩
      | schedules => exact .inr ⟨by simp, by simpa using hended⟩
      | ended => exact .inr ⟨by simp, by simpa using hended⟩

/-! ## The watch and the loop

It remains to see that a loop does only what its watch lets pass. An action, a callback, a run and a
whole use are followed one after another, and after each the watch knows the loop as it is. -/

/-- The watch knows the loop as it is. -/
structure Mirrors (w : Watch α) (l : EventLoop α) : Prop where
  stopped : w.stopped = l.stopped
  gone : w.gone = l.gone
  queue : l.queue = if l.gone then [] else w.waiting

variable {l : EventLoop α} {callback : LoopCallback α}

/-- A loop that is gone has nothing left to run. -/
theorem Mirrors.idle (h : Mirrors w l) (hgone : l.gone = true) : l.queue = [] := by
  rw [h.queue, if_pos hgone]

theorem Mirrors.waiting (h : Mirrors w l) (hgone : w.gone = false) :
    l.queue = w.waiting := by
  rw [h.queue, ← h.gone, hgone]
  rfl

/-- Where a callback goes on, the loop does as it says. -/
theorem notes_act {waiting : List (LoopCallback α)} {stopped gone : Bool} {a : LoopAction α}
    {left : LoopCallback α} (h : Mirrors ⟨waiting, stopped, gone, .inside (a :: left)⟩ l) :
    ∃ waiting' stopped', Notes ⟨waiting, stopped, gone, .inside (a :: left)⟩ a.event
        ⟨waiting', stopped', gone, .inside left⟩ ∧
      Mirrors ⟨waiting', stopped', gone, .inside left⟩ (l.act a) := by
  obtain ⟨hstopped, hgone, hqueue⟩ := h
  cases a with
  | emit v => exact ⟨_, _, .emits, hstopped, hgone, hqueue⟩
  | stop => exact ⟨_, _, .stops, rfl, hgone, hqueue⟩
  | schedule callback =>
    refine ⟨_, _, .schedules, ?_⟩
    cases hg : l.gone with
    | true => exact ⟨by simpa [act, schedule, hg] using hstopped, by simp_all [act, schedule],
        by simp_all [act, schedule]⟩
    | false => exact ⟨by simpa [act, schedule, hg] using hstopped, by simp_all [act, schedule],
        by simp_all [act, schedule]⟩

/-- A callback that has begun is executed to its end, whatever it asks of the loop. -/
theorem follows_execution {waiting : List (LoopCallback α)} {stopped gone : Bool}
    {left : LoopCallback α} (h : Mirrors ⟨waiting, stopped, gone, .inside left⟩ l) :
    ∃ waiting' stopped',
      Follows ⟨waiting, stopped, gone, .inside left⟩ (left.map LoopAction.event ++ [.ended])
        ⟨waiting', stopped', gone, .between⟩ ∧
      Mirrors ⟨waiting', stopped', gone, .between⟩ (l.runCallback left) := by
  induction left generalizing l waiting stopped with
  | nil => exact ⟨waiting, stopped, .single .ended, h.stopped, h.gone, h.queue⟩
  | cons a left ih =>
    obtain ⟨waiting', stopped', hnote, hmirrors⟩ := notes_act h
    obtain ⟨waiting'', stopped'', hfollows, hend⟩ := ih hmirrors
    exact ⟨waiting'', stopped'', .cons hnote hfollows, hend⟩

/-- A run executes callbacks until the loop is asked to stop or none is left. -/
theorem follows_serves {m : EventLoop α} {callbacks waiting : List (LoopCallback α)}
    {stopped : Bool} (hserves : Serves l callbacks m)
    (h : Mirrors ⟨waiting, stopped, false, .between⟩ l) :
    ∃ waiting' stopped', Follows ⟨waiting, stopped, false, .between⟩ (callbacks.flatMap execution)
        ⟨waiting', stopped', false, .between⟩ ∧
      Mirrors ⟨waiting', stopped', false, .between⟩ m ∧ (stopped' = true ∨ waiting' = []) := by
  induction hserves generalizing waiting stopped with
  | ends hend =>
    refine ⟨waiting, stopped, .nil, h, ?_⟩
    rwa [← h.stopped, h.waiting rfl] at hend
  | @takes l m callback rest callbacks hgoing hqueue _ ih =>
    obtain rfl : stopped = false := h.stopped.trans hgoing
    obtain rfl : waiting = callback :: rest := (h.waiting rfl).symm.trans hqueue
    have hbegun : Mirrors ⟨rest, false, false, .inside callback⟩ { l with queue := rest } :=
      ⟨h.stopped, h.gone, by simp [← h.gone]⟩
    obtain ⟨_, _, hexecution, hmirrors⟩ := follows_execution hbegun
    obtain ⟨waiting', stopped', hfollows, hend⟩ := ih hmirrors
    exact ⟨waiting', stopped', (Follows.cons .began hexecution).append hfollows, hend⟩

/-- Whatever is done with a loop, its history may be. -/
theorem follows_take {waiting : List (LoopCallback α)} {stopped gone : Bool}
    (h : Mirrors ⟨waiting, stopped, gone, .outside⟩ l) (step : LoopStep α) :
    ∃ waiting' stopped' gone', Follows ⟨waiting, stopped, gone, .outside⟩ (step.events l)
        ⟨waiting', stopped', gone', .outside⟩ ∧
      Mirrors ⟨waiting', stopped', gone', .outside⟩ (l.take step) := by
  obtain ⟨hstopped, hgone, hqueue⟩ := id h
  cases step with
  | schedule callback =>
    refine ⟨_, _, _, .single .scheduled, ?_⟩
    cases hg : l.gone <;> constructor <;> simp_all [EventLoop.take, schedule]
  | stop => exact ⟨_, _, _, .single .stopAsked, rfl, hgone, hqueue⟩
  | drop => exact ⟨_, _, _, .single .dropped, hstopped, rfl, rfl⟩
  | run =>
    cases hg : l.gone with
    | true =>
      rw [LoopStep.events, if_pos hg, EventLoop.take, run_of_idle (h.idle hg)]
      exact ⟨_, _, _, .nil, h⟩
    | false =>
      obtain rfl : gone = false := hgone.trans hg
      have hbetween : Mirrors ⟨waiting, stopped, false, .between⟩ l := ⟨hstopped, hgone, hqueue⟩
      obtain ⟨waiting', stopped', hfollows, hmirrors, hend⟩ :=
        follows_serves (serves_run l) hbetween
      have hrun := hfollows.append (.single (.runEnded hend))
      rw [LoopStep.events, if_neg (by simp [hg])]
      exact ⟨waiting', stopped', false, .cons .runBegan hrun, hmirrors.stopped, hmirrors.gone,
        hmirrors.queue⟩

/-- The record of any use can be followed, to what the loop is in the end. -/
theorem follows_history {waiting : List (LoopCallback α)} {stopped gone : Bool}
    (h : Mirrors ⟨waiting, stopped, gone, .outside⟩ l) (steps : List (LoopStep α)) :
    ∃ waiting' stopped' gone', Follows ⟨waiting, stopped, gone, .outside⟩ (history l steps)
        ⟨waiting', stopped', gone', .outside⟩ ∧
      Mirrors ⟨waiting', stopped', gone', .outside⟩ (l.after steps) := by
  induction steps generalizing l waiting stopped gone with
  | nil => exact ⟨waiting, stopped, gone, .nil, h⟩
  | cons step rest ih =>
    obtain ⟨_, _, _, hstep, hmirrors⟩ := follows_take h step
    obtain ⟨waiting', stopped', gone', hrest, hend⟩ := ih hmirrors
    exact ⟨waiting', stopped', gone', hstep.append hrest, hend⟩

/-! ## What the loop has on record

The loop itself keeps a short record. It is what the history shows if scheduling, beginnings and
ends are left out. -/

theorem traceOf_append (past future : List (LoopEvent α)) :
    traceOf (past ++ future) = traceOf past ++ traceOf future :=
  List.filterMap_append

/-- An action is put on record as it is done. -/
theorem trace_act (l : EventLoop α) (a : LoopAction α) :
    (l.act a).trace = l.trace ++ traceOf [a.event] := by
  cases a with
  | emit v => rfl
  | stop => rfl
  | schedule callback =>
    simp only [act, schedule]
    split <;> simp [traceOf, LoopAction.event]

theorem trace_runCallback (l : EventLoop α) (callback : LoopCallback α) :
    (l.runCallback callback).trace = l.trace ++ traceOf (callback.map LoopAction.event) := by
  induction callback generalizing l with
  | nil => simp [runCallback, traceOf]
  | cons a rest ih =>
    have hrest := ih (l.act a)
    rw [trace_act, List.append_assoc, ← traceOf_append] at hrest
    exact hrest

theorem traceOf_execution (callback : LoopCallback α) :
    traceOf (execution callback) = traceOf (callback.map LoopAction.event) := by
  simp [execution, traceOf]

/-- A run puts the actions of its callbacks on record, one callback after another. -/
theorem trace_serves {m : EventLoop α} {callbacks : List (LoopCallback α)}
    (h : Serves l callbacks m) :
    m.trace = l.trace ++ traceOf (callbacks.flatMap execution) := by
  induction h with
  | ends => simp [traceOf]
  | @takes l m callback rest callbacks _ _ _ ih =>
    rw [ih, serve, trace_runCallback, List.flatMap_cons, traceOf_append, traceOf_execution,
      List.append_assoc]

theorem trace_take (h : Mirrors w l) (step : LoopStep α) :
    (l.take step).trace = l.trace ++ traceOf (step.events l) := by
  cases step with
  | schedule callback => exact trace_act l (.schedule callback)
  | stop => rfl
  | drop => simp [EventLoop.take, drop, LoopStep.events, traceOf]
  | run =>
    cases hg : l.gone with
    | true => simp [EventLoop.take, run_of_idle (h.idle hg), LoopStep.events, hg, traceOf]
    | false =>
      rw [EventLoop.take, trace_serves (serves_run l), LoopStep.events, if_neg (by simp [hg])]
      simp [traceOf]

/-- So the record of a use is that of its history. -/
theorem trace_after {waiting : List (LoopCallback α)} {stopped gone : Bool}
    (h : Mirrors ⟨waiting, stopped, gone, .outside⟩ l) (steps : List (LoopStep α)) :
    (l.after steps).trace = l.trace ++ traceOf (history l steps) := by
  induction steps generalizing l waiting stopped gone with
  | nil => simp [after, history, traceOf]
  | cons step rest ih =>
    obtain ⟨_, _, _, -, hmirrors⟩ := follows_take h step
    rw [history, traceOf_append, ← List.append_assoc, ← trace_take h]
    exact ih hmirrors

/-! ## Uses of a new loop

A new loop has an empty watch. What the watch knows of histories can be said of every use of it, at
every moment. -/

theorem mirrors_empty : Mirrors (α := α) .opened .empty := ⟨rfl, rfl, rfl⟩

/-- What is known of a new loop after any use of it. -/
theorem exists_follows_history (steps : List (LoopStep α)) :
    ∃ w, Follows .opened (history .empty steps) w ∧ w.work = .outside ∧
      Mirrors w (empty.after steps) := by
  obtain ⟨_, _, _, hfollows, hmirrors⟩ := follows_history mirrors_empty steps
  exact ⟨_, hfollows, rfl, hmirrors⟩

/-- What was known at any moment of it. -/
theorem follows_at {steps : List (LoopStep α)} (h : history .empty steps = past ++ future) :
    ∃ v w, Follows .opened past v ∧ Follows v future w ∧ w.work = .outside := by
  obtain ⟨w, hfollows, hwork, -⟩ := exists_follows_history steps
  rw [h] at hfollows
  obtain ⟨v, hpast, hfuture⟩ := hfollows.split
  exact ⟨v, w, hpast, hfuture, hwork⟩

/-- At each event of a history the watch has read what was before it. -/
theorem notes_at {steps : List (LoopStep α)} (h : history .empty steps = past ++ e :: future) :
    ∃ u v w, Follows .opened past u ∧ Notes u e v ∧ Follows v future w ∧ w.work = .outside := by
  obtain ⟨u, w, hpast, hnext, hwork⟩ := follows_at h
  obtain _ | ⟨hnote, hfuture⟩ := hnext
  exact ⟨u, _, w, hpast, hnote, hfuture, hwork⟩

/-- Whether a loop was asked to stop can be told from its history. -/
theorem stopped_after_iff (steps : List (LoopStep α)) :
    (empty.after steps).stopped = true ↔ .stopAsked ∈ history .empty steps := by
  obtain ⟨w, hfollows, -, hmirrors⟩ := exists_follows_history steps
  rw [← hmirrors.stopped, hfollows.stopped_iff]
  simp [Watch.opened]

theorem gone_after_iff (steps : List (LoopStep α)) :
    (empty.after steps).gone = true ↔ .dropped ∈ history .empty steps := by
  obtain ⟨w, hfollows, -, hmirrors⟩ := exists_follows_history steps
  rw [← hmirrors.gone, hfollows.gone_iff]
  simp [Watch.opened]

theorem after_concat (l : EventLoop α) (steps : List (LoopStep α)) (step : LoopStep α) :
    l.after (steps ++ [step]) = (l.after steps).take step := by
  simp [after]

/-- A run that was not asked to stop, of a loop that is there, leaves no callback unexecuted. -/
theorem begunIn_eq_scheduledIn {steps : List (LoopStep α)}
    (hgone : .dropped ∉ history .empty steps)
    (hstop : .stopAsked ∉ history .empty (steps ++ [.run])) :
    begunIn (history .empty (steps ++ [.run])) =
      scheduledIn (history .empty (steps ++ [.run])) := by
  obtain ⟨w, hfollows, -, hmirrors⟩ := exists_follows_history (steps ++ [.run])
  rw [← stopped_after_iff, after_concat] at hstop
  rw [after_concat] at hmirrors
  have hqueue : (empty.after steps).run.queue = [] := (serves_run _).ended.resolve_left hstop
  have hhere : ¬(empty.after steps).run.gone = true := by
    rwa [(serves_run _).gone, gone_after_iff]
  have hwaiting : w.waiting = [] := by
    have hq := hmirrors.queue
    rw [EventLoop.take, hqueue, if_neg hhere] at hq
    exact hq.symm
  have horder := hfollows.waiting
  rw [hwaiting] at horder
  simpa [Watch.opened] using horder.symm

/-- What holds of a new loop after any use of it, and of a run that comes next. -/
structure Orderly (steps : List (LoopStep α)) : Prop where
  /-- The history is that of the loop: it shows what the loop has on record. -/
  trace : (empty.after steps).trace = traceOf (history .empty steps)
  /-- A run ends; either it was asked to stop, or nothing waits any more. -/
  ends : (empty.after steps).run.stopped = true ∧
      .stopAsked ∈ history .empty (steps ++ [.run]) ∨
    (empty.after steps).run.stopped = false ∧ (empty.after steps).run.queue = []
  bound : (empty.after steps).executed.length ≤ (empty.after steps).weight
  /-- The callbacks that it executes are those that it finds in front, one after another. -/
  serves : Serves (empty.after steps) (empty.after steps).executed (empty.after steps).run
  /-- At any moment the callbacks that have begun are the first of those that were scheduled. -/
  order : ∀ past future, history .empty steps = past ++ future →
    begunIn past <+: scheduledIn past
  /-- A callback begins in a run, and its actions are done, all of them and nothing else, before
  anything else happens. -/
  alone : ∀ past callback future, history .empty steps = past ++ .began callback :: future →
    Running past ∧ ∃ rest, future = callback.map LoopAction.event ++ .ended :: rest
  /-- Nothing is done outside of a run. -/
  inside : ∀ past v future, history .empty steps = past ++ .emitted v :: future → Running past
  /-- After the loop was asked to stop no callback begins, in this run or a later one. -/
  noneAfterStop : ∀ past future, history .empty steps = past ++ .stopAsked :: future →
    begunIn future = []
  /-- A run of a loop that was asked to stop changes nothing, and executes nothing. -/
  idle : .stopAsked ∈ history .empty steps →
    (empty.after steps).run = empty.after steps ∧ (empty.after steps).executed = []
  /-- A run leaves no callback unexecuted, unless the loop was asked to stop, or is gone. -/
  left : begunIn (history .empty (steps ++ [.run])) =
      scheduledIn (history .empty (steps ++ [.run])) ∨
    .stopAsked ∈ history .empty (steps ++ [.run]) ∨ .dropped ∈ history .empty steps

/-- Whatever is done with a loop, callbacks keep their order. -/
theorem orderly_history (steps : List (LoopStep α)) : Orderly steps where
  trace := trace_after mirrors_empty steps
  ends := by
    rw [← stopped_after_iff, after_concat]
    rcases hs : (empty.after steps).run.stopped with - | -
    · exact .inr ⟨rfl, (serves_run _).ended.resolve_left (by simp [hs])⟩
    · exact .inl ⟨rfl, hs⟩
  bound := (serves_run _).length_le
  serves := serves_run _
  order past future heq := by
    obtain ⟨v, _, hpast, -, -⟩ := follows_at heq
    exact ⟨v.waiting, by simpa [Watch.opened] using hpast.waiting.symm⟩
  -- A callback begins when none is running, and whatever it does comes before its end.
  alone past callback future heq := by
    obtain ⟨_, _, _, hpast, hnote, hfuture, hwork⟩ := notes_at heq
    cases hnote with
    | began =>
      refine ⟨?_, hfuture.finishes rfl hwork⟩
      exact (hpast.running (by simp)).resolve_right (fun h => h.1 rfl)
  inside past v future heq := by
    obtain ⟨_, _, _, hpast, hnote, -, -⟩ := notes_at heq
    cases hnote with
    | emits => exact (hpast.running (by simp)).resolve_right (fun h => h.1 rfl)
  noneAfterStop past future heq := by
    obtain ⟨_, _, _, -, hnote, hfuture, -⟩ := notes_at heq
    cases hnote with
    | stopAsked => exact hfuture.stopped rfl
    | stops => exact hfuture.stopped rfl
  idle hstop := by
    have hstopped := (stopped_after_iff steps).2 hstop
    exact ⟨run_of_stopped hstopped, executed_of_stopped hstopped⟩
  -- Nothing is left over but for one of two reasons, that are looked at first.
  left := by
    by_cases hgone : .dropped ∈ history .empty steps
    · exact .inr (.inr hgone)
    by_cases hstop : .stopAsked ∈ history .empty (steps ++ [.run])
    · exact .inr (.inl hstop)
    exact .inl (begunIn_eq_scheduledIn hgone hstop)

end EventLoop

end KernelGate
