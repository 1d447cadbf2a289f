import KernelGate.Dict
import KernelGate.Text.Cut

/-!
# The variables of a process

A process is handed its variables as lines, each with a name, a sign of equality and a value, in the
order of the names under which they were set. Such a name may hold a sign of equality itself: its
line then reads as one for the name in front of that sign, so that there can be several lines for
one name. The system goes by the first of them, a shell by the last.
-/

namespace KernelGate

/-- Lines of variables, each read as a name and a value. -/
abbrev Variables := List (String × String)

namespace Variables

/-- The lines for what has been set. -/
def ofDict (set : Dict String) : Variables :=
  set.toList.filterMap fun e => Text.cutAt? "=" (e.1 ++ "=" ++ e.2)

/-- The value of a variable as the system finds it. -/
def first? (lines : Variables) (name : String) : Option String :=
  (lines.find? fun line => line.1 = name).map (·.2)

/-- The variables as a shell takes them. -/
def shell (lines : Variables) : Dict String := Dict.ofList lines

/-- Set a variable in its first line, or in a new one behind all others. -/
def put (name value : String) : Variables → Variables
  | [] => [(name, value)]
  | line :: rest => if line.1 = name then (name, value) :: rest else line :: put name value rest

end Variables

end KernelGate
