import KernelGate.Launcher.Conduct

/-!
# Launchers with a script

A launcher that runs nothing, but answers as a script says: by the kernel that a call is about, by
its host, its spec or its user, whichever the script names first, else as it says for all calls of
the kind. What it was asked is kept on record.
-/

namespace KernelGate

/-- The kinds of calls. -/
inductive CallKind where
  | launch
  | probe
  | terminate
  deriving DecidableEq, Repr, Inhabited

/-- The kind of a call. -/
def LauncherCall.kind : LauncherCall → CallKind
  | .launch _ => .launch
  | .probe _ => .probe
  | .terminate _ => .terminate

/-- What comes of calls, by their kind. -/
abbrev CallTable := List (CallKind × Conduct)

/-- A script: what comes of calls in general, and of those about a named kernel, host, spec or
user. -/
structure LauncherScript where
  general : CallTable
  named : Dict CallTable
  deriving Inhabited

namespace LauncherScript

/-- What a table says of a kind of calls. -/
def find? (table : CallTable) (kind : CallKind) : Option Conduct :=
  (table.find? (·.1 = kind)).map (·.2)

/-- What comes of a call about a kernel, whose id is known to the script by a name. -/
def conduct (s : LauncherScript) (call : LauncherCall) (idName : String) : Conduct :=
  let h := call.handle
  let byName := [idName, h.host, h.name, h.user].findSome? fun name =>
    (s.named.get? name).bind fun table => find? table call.kind
  (byName <|> find? s.general call.kind).getD (.atOnce (.ok ()))

end LauncherScript

/-- A launcher with a script, what it was asked so far, and the names by which the script knows the
ids of kernels. -/
structure ScriptedLauncher where
  script : LauncherScript
  nameOf : String → String
  asked : List LauncherCall

namespace ScriptedLauncher

instance : Launcher ScriptedLauncher where
  respond l call :=
    ({ l with asked := l.asked ++ [call] }, l.script.conduct call (l.nameOf call.handle.id))

end ScriptedLauncher

end KernelGate
