import KernelGate.Activity

/-!
# Launchers

A launcher answers calls, each after a time of its own, or never. A caller that has limited its
patience gets no answer once the limit is over; an answer that comes just at the limit counts.

Main statement: `waiting_le` (nobody waits beyond the limit).
-/

namespace KernelGate

/-- What comes of a call. -/
inductive Conduct where
  /-- An answer after some milliseconds. -/
  | answers (after : Nat) (result : Result Unit)
  | hangs
  deriving Inhabited

/-- A launcher with a state of its own. -/
class Launcher (L : Type) where
  respond : L → LauncherCall → L × Conduct

namespace Conduct

/-- An answer at once. -/
def atOnce (result : Result Unit) : Conduct := answers 0 result

/-- How long a caller waits, and what it gets; none where it waits forever. -/
def waiting : Conduct → (limit : Option Nat) → Option (Nat × Reply)
  | answers after result, none => some (after, some result)
  | answers after result, some limit =>
    if after ≤ limit then some (after, some result) else some (limit, none)
  | hangs, none => none
  | hangs, some limit => some (limit, none)

theorem waiting_le {c : Conduct} {limit after : Nat} {reply : Reply}
    (h : c.waiting (some limit) = some (after, reply)) : after ≤ limit := by
  cases c with
  | answers a result =>
    simp only [waiting] at h
    split at h <;> simp only [Option.some.injEq, Prod.mk.injEq] at h <;> omega
  | hangs => simp only [waiting, Option.some.injEq, Prod.mk.injEq] at h; omega

end Conduct

/-- The reply to a call, without regard to the time that it takes. -/
def Launcher.reply {L : Type} [Launcher L] (l : L) (c : LauncherCall) (limit : Option Nat) :
    L × Reply :=
  let (l, conduct) := Launcher.respond l c
  (l, (conduct.waiting limit).bind (·.2))

end KernelGate
