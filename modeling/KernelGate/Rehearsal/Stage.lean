import KernelGate.Host.Machine
import KernelGate.Launcher.Scripted
import KernelGate.Rehearsal.Clock
import KernelGate.Rehearsal.Names
import KernelGate.Scatter
import KernelGate.Session.Registry
import KernelGate.Session.ScriptedStore

/-!
# The stage of a rehearsal

Launchers and stores that a gateway is rehearsed with, and what there is to see of them: the calls
that were made since one looked last.
-/

namespace KernelGate

/-- A launcher that follows a script, or one that runs processes on a machine. -/
inductive StageLauncher where
  | scripted (l : ScriptedLauncher)
  | processes (l : LocalLauncher Machine)

instance : Launcher StageLauncher where
  respond
    | .scripted l, call =>
      let (l, conduct) := Launcher.respond l call
      (.scripted l, conduct)
    | .processes l, call =>
      let (l, conduct) := Launcher.respond l call
      (.processes l, conduct)

namespace StageLauncher

/-- A launcher that follows a script, which knows generated ids by their plain names. -/
def ofScript (script : LauncherScript) : StageLauncher :=
  .scripted ⟨script, Rehearsal.plain, []⟩

/-- Follow another script from now on. -/
def setScript (script : LauncherScript) : StageLauncher → StageLauncher
  | .scripted l => .scripted { l with script }
  | .processes l => .processes l

/-- The calls that were made, which are then forgotten. -/
def take : StageLauncher → StageLauncher × List LauncherCall
  | .scripted l => (.scripted { l with asked := [] }, l.asked)
  | .processes l => (.processes l, [])

end StageLauncher

/-- What there is to see of a stretch of a rehearsal. -/
structure StageEvents where
  launched : List LaunchRequest
  /-- Kernels that were looked at: given ones in turn, then generated ones by number. -/
  probed : List String
  /-- Kernels that were to be ended, in order of their ids. -/
  ended : List String
  /-- Sessions whose records were to be kept, in turn. -/
  persisted : List String
  /-- Sessions whose records were to go, in order of their ids. -/
  removed : List String
  queries : List Nat

/-- Texts in ascending order. -/
def ascending (ids : List String) : List String := ids.mergeSort fun a b => a ≤ b

/-- Given ids as they stand, then generated ones by number. -/
def givenFirst (ids : List String) : List String :=
  ids.filter (fun id => !Rehearsal.isGenerated id) ++
    ascending (ids.filter Rehearsal.isGenerated)

/-- What the calls to a launcher and a store show. -/
def StageEvents.of (calls : List LauncherCall) (store : ScriptedStore) (queries : List Nat) :
    StageEvents where
  launched := calls.filterMap fun
    | .launch r => some r
    | _ => none
  probed := givenFirst (calls.filterMap fun
    | .probe h => some h.id
    | _ => none)
  ended := ascending (calls.filterMap fun
    | .terminate h => some h.id
    | _ => none)
  persisted := store.persisted
  removed := ascending store.removed
  queries := queries

/-- The supply of a rehearsal: numbered ids, and ports drawn from a sequence of numbers. -/
def Supply.rehearsed : Supply where
  kernelId := Rehearsal.kernelId
  sessionId := Rehearsal.sessionId
  ports i :=
    { draw := fun k => scattered (i * 1009 + k)
      bind := fun k _ => .bound (.ofNat (32768 + (i * 5 + k) % 28000)) }

end KernelGate
