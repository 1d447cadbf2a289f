import KernelGate.Command.Run
import KernelGate.Command.Supply

/-!
# The command

Reads arguments, variables and files, lets the run decide, and prints its log. Kernels run on a
machine of the library's own; signals are read from the input, a word on each line.
-/

namespace KernelGate.Main

/-- How the command is used. -/
def usage : String :=
  "Usage: kernel-gateway [OPTIONS]\n\nOptions:\n" ++
  "  -c, --config FILE      configuration file\n" ++
  "      --ip ADDRESS       address of the listener\n" ++
  "      --port PORT        port of the listener\n" ++
  "      --api NAME         interface for clients\n" ++
  "      --log-level LEVEL  level of the log [default: info]\n" ++
  "  -s, --set NAME=VALUE   a setting\n" ++
  "  -h, --help             this help"

/-- The variables that a run may look at. -/
def askedVariables : List String :=
  Setting.all.map (·.env) ++ loginVariables ++ ["RUST_LOG", "PATH", "HOME"]

/-- The variables of the process. -/
def environment : IO Environment :=
  askedVariables.foldlM (fun env name => do
    return match ← IO.getEnv name with
      | some value => env.insert name value
      | none => env) ∅

/-- Read a file. -/
def readFile (path : String) : IO (Except IoFault (List UInt8)) := do
  try
    return .ok (← IO.FS.readBinFile path).toList
  catch
    | .noFileOrDirectory .. => return .error .noEntry
    | .permissionDenied .. => return .error .accessDenied
    | e => return .error (.other (toString e))

/-- Read files, to be asked for by their paths later. -/
def readFiles (paths : List String) : IO Listener.FileReader := do
  let found ← paths.mapM fun path => return (path, ← readFile path)
  return fun path => ((found.find? (·.1 = path)).map (·.2)).getD (.error .noEntry)

/-- Read signals until the input ends. -/
partial def readSignals (input : IO.FS.Stream) : IO (List StopSignal) := do
  let line ← input.getLine
  if line.isEmpty then return []
  let rest ← readSignals input
  return match Text.trim line with
    | "HUP" => .hangUp :: rest
    | "TERM" => .terminate :: rest
    | "INT" => .interrupt :: rest
    | _ => rest

/-- Print a line of the log. -/
def printLine (line : LogLine) : IO Unit :=
  IO.println (line.level.word ++ " " ++ line.source ++ ": " ++
    match line with
    | .reached m => m.words
    | .failed f => "Gateway exited with error error=" ++ f.message)

/-- Run the command. -/
def run (inv : Invocation) : IO UInt32 := do
  let env ← environment
  let seed := (← IO.getRandomBytes 8).toList.foldl (fun n b => n * 256 + b.toNat) 0
  let context := fun (read : Listener.FileReader) =>
    (⟨read, .new ⟨[], []⟩ env, .seeded seed, []⟩ : RunContext)
  let configFile := inv.configPath?.toList
  let config? := (inv.loadConfig (context (← readFiles configFile))).toOption
  let tlsFiles := match config? with
    | some c => c.certFile?.toList ++ c.keyFile?.toList
    | none => []
  let signals ← readSignals (← IO.getStdin)
  let outcome := inv.run (context (← readFiles (configFile ++ tlsFiles))) signals
  (inv.keptLines env outcome).forM printLine
  return (outcome.exit?.getD 0).toUInt32

end KernelGate.Main

/-- The entry of the command. -/
def main (args : List String) : IO UInt32 := do
  match KernelGate.Invocation.ofArguments args with
  | .ok inv => KernelGate.Main.run inv
  | .error .help => do
    IO.println KernelGate.Main.usage
    return 0
  | .error .misuse => do
    IO.eprintln KernelGate.Main.usage
    return 2
