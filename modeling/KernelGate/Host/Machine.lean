import KernelGate.Host.Network
import KernelGate.Host.Program

/-!
# A machine that runs processes

Files, variables, a clock, and the processes that were started, by number. A process runs until its
time is over or it is killed.

Main statement: `check_kill` (a running process that is killed has ended by that signal).
-/

namespace KernelGate

/-- A machine: `ends?` of a process says when it ends and how, unless it runs on. -/
structure Machine where
  files : Files
  /-- The variables of the gateway's own process. -/
  env : Dict String
  now : Nat
  processes : List (Option (Nat × ExitStatus))

namespace Machine

/-- The folders that programs are looked for in where no variable names them. -/
def usualFolders : String := "/usr/local/bin:/usr/bin:/bin"

/-- The variables of a process on a machine where nobody has set any others. -/
def usualVariables : Dict String := Dict.ofList [("PATH", usualFolders), ("HOME", "/root")]

/-- Put a file where it belongs, and before it the folders above it that are missing. -/
def lay (fs : Files) (folder name : String) (bytes : List UInt8) : Files :=
  let fs := (fs.makePath folder).toOption.getD fs
  (fs.write (Files.join folder name) bytes).toOption.getD fs

/-- The files of a machine with those of its programs. -/
def withPrograms (fs : Files) : Files :=
  Program.folders.foldl (fun fs folder =>
    Program.names.foldl (fun fs name => lay fs folder name []) fs) fs

/-- The files of a machine that nobody has used, seen from a folder. -/
def usualFiles (current : Place) : Files :=
  let fs := ["/tmp", "/dev", "/proc", "/home", "/var"].foldl (fun (fs : Files) folder =>
    (fs.makePath folder).toOption.getD fs) ⟨[], current⟩
  let fs := lay fs "/dev" "null" []
  let fs := lay fs "/etc" "passwd" "root:x:0:0:root:/root:/bin/sh\n".toUTF8.toList
  (fs.makePath "/root").toOption.getD fs

/-- A machine that has started nothing. -/
def new (files : Files) (env : Dict String) : Machine := ⟨withPrograms files, env, 0, []⟩

/-- Whether a place is that of a program. -/
def isProgramPlace (place : Place) : Bool :=
  Program.folders.any (fun folder => (Text.split '/' folder).drop 1 = place.dropLast) &&
    (place.getLast?.map Program.names.contains).getD false

/-- Whether a path is that of a program, and if not why it cannot be run. -/
def runnable (fs : Files) (path : String) : Except IoFault Unit := do
  match ← fs.locate path with
  | .folder _ => .error .accessDenied
  | .entry place name asFolder =>
    match fs.top.find? (place ++ [name]) with
    | none => .error .noEntry
    | some (.folder _) => .error .accessDenied
    | some (.file _) =>
      if asFolder then .error .notDirectory
      else if isProgramPlace (place ++ [name]) then .ok ()
      else .error .accessDenied

/-- Find a program: by its path, or by its name in the folders of a list. Of the folders without
it, one that has something else under the name decides what is said. -/
def find (fs : Files) (folders? : Option String) (program : String) : Except IoFault Unit :=
  if program = "" then .error .noEntry
  else if program.toList.contains '/' then runnable fs program
  else if program.utf8ByteSize > Files.maxName then .error .nameTooLong
  else
    let found := (Text.split ':' (folders?.getD usualFolders)).map fun folder =>
      runnable fs (Files.join folder program)
    if found.any (·.toBool) then .ok ()
    else if found.any (fun r => match r with
      | .error cause => cause = .accessDenied
      | .ok _ => false) then .error .accessDenied
    else .error .noEntry

/-- What programs see of the machine. -/
def surroundings (m : Machine) : Program.Surroundings :=
  ⟨m.files, fun folders? name => (find m.files folders? name).toBool⟩

/-- Whether a text has the character that ends words. -/
def hasNul (s : String) : Bool := s.toList.contains '\x00'

/-- Whether a command can be handed over to the system. -/
def isSendable (c : ProcessCommand) : Bool :=
  !hasNul c.program && !c.arguments.any hasNul &&
    !c.env.toList.any fun e => hasNul e.1 || hasNul e.2

/-- When and how a process ends that is started now. -/
def outcome (m : Machine) (fate : Fate) : Option (Nat × ExitStatus) :=
  match fate with
  | .ends millis status => some (m.now + millis, status)
  | .runsOn => none

/-- What is set for a process: the variables of the gateway's own process, and over them those of
the command. -/
def settings (m : Machine) (c : ProcessCommand) : Dict String := m.env.overlay c.env

/-- Start a process. -/
def spawn (m : Machine) (c : ProcessCommand) : Machine × Except IoFault Nat :=
  if !isSendable c then (m, .error .nulInWord)
  else
    let set := m.settings c
    match find m.files (set.get? "PATH") c.program with
    | .error fault => (m, .error fault)
    | .ok () =>
      let fate := Program.fate m.surroundings Program.maxSteps (.ofDict set) c.program c.arguments
      ({ m with processes := m.processes ++ [m.outcome fate] }, .ok m.processes.length)

/-- How a process has ended, if it has. -/
def check (m : Machine) (process : Nat) : Option ExitStatus :=
  match m.processes[process]? with
  | some (some (time, status)) => if time ≤ m.now then some status else none
  | _ => none

/-- Kill a process, unless it has ended. -/
def kill (m : Machine) (process : Nat) : Machine :=
  match m.check process with
  | some _ => m
  | none => { m with processes := m.processes.set process (some (m.now, .signal 9)) }

/-- Let time pass until a process has ended. -/
def waitFor (m : Machine) (process : Nat) : Machine :=
  match m.processes[process]? with
  | some (some (time, _)) => { m with now := max m.now time }
  | _ => m

instance : ProcessHost Machine where
  spawn := spawn
  check m process := (m, .ok (m.check process))
  kill m process := (m.kill process, .ok ())
  connect m host port := (m, Network.connect host port)

theorem check_kill {m : Machine} {process : Nat} (h : process < m.processes.length)
    (hruns : m.check process = none) : (m.kill process).check process = some (.signal 9) := by
  simp only [kill, hruns]
  simp [check, h]

end Machine

end KernelGate
