/-!
# The event loop

Callbacks are scheduled from anywhere and run one at a time, in the order in which they were
scheduled. A callback is a list of actions: it may emit something, ask the loop to stop, or
schedule another callback. A loop that is asked to stop finishes the callback that is running and
starts no other one.

Main statements: `weight_runCallback` (a callback only schedules what is smaller than itself, which
is why every run ends), `run_of_stopped` (a stopped loop runs nothing).
-/

namespace KernelGate

/-- One action of a callback. -/
inductive LoopAction (α : Type) where
  | emit (v : α)
  | stop
  | schedule (callback : List (LoopAction α))

/-- What is left on record of the actions that ran. -/
inductive LoopTrace (α : Type) where
  | emitted (v : α)
  | stopAsked
  deriving DecidableEq, Repr

/-- A callback. -/
abbrev LoopCallback (α : Type) := List (LoopAction α)

mutual

/-- The number of actions in an action. -/
def LoopAction.weight {α : Type} : LoopAction α → Nat
  | .emit _ => 1
  | .stop => 1
  | .schedule callback => 1 + callbackWeight callback

/-- The number of actions in a callback, and one for itself. -/
def callbackWeight {α : Type} : List (LoopAction α) → Nat
  | [] => 1
  | a :: rest => a.weight + callbackWeight rest

end

/-- A loop: callbacks that wait, the first one in front. -/
structure EventLoop (α : Type) where
  queue : List (LoopCallback α)
  /-- The loop has been asked to stop. -/
  stopped : Bool
  /-- The loop is gone, and takes no more callbacks. -/
  gone : Bool
  trace : List (LoopTrace α)

namespace EventLoop

variable {α : Type}

/-- A loop that has nothing to do. -/
def empty : EventLoop α := ⟨[], false, false, []⟩

instance : Inhabited (EventLoop α) := ⟨empty⟩

/-- Put a callback behind all others. -/
def schedule (l : EventLoop α) (callback : LoopCallback α) : EventLoop α :=
  if l.gone then l else { l with queue := l.queue ++ [callback] }

/-- Ask the loop to stop. -/
def stop (l : EventLoop α) : EventLoop α :=
  { l with stopped := true, trace := l.trace ++ [.stopAsked] }

/-- Let the loop go; what waits is never run. -/
def drop (l : EventLoop α) : EventLoop α := { l with queue := [], gone := true }

/-- Do one action. -/
def act (l : EventLoop α) : LoopAction α → EventLoop α
  | .emit v => { l with trace := l.trace ++ [.emitted v] }
  | .stop => l.stop
  | .schedule callback => l.schedule callback

/-- Do the actions of a callback. -/
def runCallback (l : EventLoop α) (callback : LoopCallback α) : EventLoop α :=
  callback.foldl act l

/-- What has been emitted so far. -/
def emitted (l : EventLoop α) : List α :=
  l.trace.filterMap fun
    | .emitted v => some v
    | .stopAsked => none

/-- The number of actions in callbacks. -/
def queueWeight : List (LoopCallback α) → Nat
  | [] => 0
  | callback :: rest => callbackWeight callback + queueWeight rest

/-- The number of actions that wait. -/
def weight (l : EventLoop α) : Nat := queueWeight l.queue

theorem queueWeight_concat (queue : List (LoopCallback α)) (callback : LoopCallback α) :
    queueWeight (queue ++ [callback]) = queueWeight queue + callbackWeight callback := by
  induction queue with
  | nil => simp [queueWeight]
  | cons first rest ih => simp only [List.cons_append, queueWeight, ih, Nat.add_assoc]

/-- An action that schedules a callback weighs more than the callback. -/
theorem weight_act (l : EventLoop α) (a : LoopAction α) :
    (l.act a).weight + 1 ≤ l.weight + a.weight := by
  cases a with
  | emit v => simp [act, weight, LoopAction.weight]
  | stop => simp [act, stop, weight, LoopAction.weight]
  | schedule callback =>
    simp only [act, schedule, LoopAction.weight]
    split
    · omega
    · simp only [weight, queueWeight_concat]
      omega

theorem weight_runCallback (l : EventLoop α) (callback : LoopCallback α) :
    (l.runCallback callback).weight + 1 ≤ l.weight + callbackWeight callback := by
  induction callback generalizing l with
  | nil => simp [runCallback, callbackWeight]
  | cons a rest ih =>
    have h1 := weight_act l a
    have h2 := ih (l.act a)
    simp only [runCallback, List.foldl_cons, callbackWeight] at h2 ⊢
    omega

/-- Run callbacks until the loop is asked to stop or none is left. -/
def run (l : EventLoop α) : EventLoop α :=
  if l.stopped then l
  else
    match _h : l.queue with
    | [] => l
    | callback :: rest => run (EventLoop.runCallback { l with queue := rest } callback)
termination_by l.weight
decreasing_by
  have h1 := weight_runCallback { l with queue := rest } callback
  have h2 : l.weight = callbackWeight callback + queueWeight rest := by
    simp [weight, _h, queueWeight]
  simp only [weight] at h1 h2 ⊢
  omega

/-- Run the callbacks that wait now, whether or not the loop has been asked to stop. -/
def drain (l : EventLoop α) : EventLoop α :=
  l.queue.foldl runCallback { l with queue := [] }

theorem run_of_stopped {l : EventLoop α} (h : l.stopped = true) : l.run = l := by
  rw [run, if_pos h]

end EventLoop

end KernelGate
