import KernelGate.Host.Files
import KernelGate.Host.Shell
import KernelGate.Host.Variables
import KernelGate.Launcher.Local

/-!
# Programs

What becomes of a program that is run: it ends after some time with a status, or runs on. The
programs are the few that commands of kernels are made of, and the shell that joins them. Nothing is
ever to be read from their input.
-/

namespace KernelGate

/-- What becomes of a process. -/
inductive Fate where
  /-- It ends after some milliseconds. -/
  | ends (after : Nat) (status : ExitStatus)
  | runsOn
  deriving DecidableEq, Repr, Inhabited

namespace Program

/-- The names of the programs. -/
def names : List String :=
  ["true", "false", "sleep", "sh", "dash", "bash", "echo", "printf", "cat", "tail", "test", "[",
    "env", "printenv", "kill", "yes", "ls", "pwd", "date", "uname", "id", "whoami", "touch"]

/-- The folders in which programs stand. -/
def folders : List String :=
  ["/bin", "/usr/bin", "/usr/local/bin", "/sbin", "/usr/sbin", "/usr/local/sbin"]

/-! ## Durations and signals -/

/-- The seconds in a unit of time. -/
def unitSeconds : List Char → Option Nat
  | [] => some 1
  | ['s'] => some 1
  | ['m'] => some 60
  | ['h'] => some 3600
  | ['d'] => some 86400
  | _ => none

/-- A number of milliseconds, written in seconds with up to three places or in another unit; the
inner option is empty for a time without end. -/
def duration? (s : String) : Option (Option Nat) :=
  if s = "infinity" || s = "inf" then some none
  else
    let cs := s.toList
    let whole := cs.takeWhile Char.isDigit
    let rest := cs.dropWhile Char.isDigit
    let places := match rest with
      | '.' :: rest => rest.takeWhile Char.isDigit
      | _ => []
    let behind := match rest with
      | '.' :: rest => rest.dropWhile Char.isDigit
      | rest => rest
    if whole.isEmpty && places.isEmpty then none
    else
      let value := fun (ds : List Char) => ds.foldl (fun n d => n * 10 + (d.toNat - 48)) 0
      (unitSeconds behind).map fun unit =>
        some ((value whole * 1000 + value ((places ++ ['0', '0', '0']).take 3)) * unit)

/-- The number of a signal, given by number or by name. -/
def signal? (s : String) : Option Nat :=
  match Text.natural? 64 s.toList with
  | some n => some n
  | none =>
    let name := if s.startsWith "SIG" then (s.drop 3).toString else s
    (ExitStatus.signalNames.findIdx? (· = name)).map (· + 1)

/-- Signals that a process does not notice. -/
def ignoredSignals : List Nat := [0, 17, 18, 23, 28]

/-- Signals that make a process stand still. -/
def haltingSignals : List Nat := [19, 20, 21, 22]

/-! ## Tests -/

/-- Whether a path leads to something. -/
def pathExists (fs : Files) (path : String) : Bool :=
  fs.isFolder path ||
    match fs.read path with
    | .ok _ => true
    | .error _ => false

/-- Compare two numbers. -/
def compare? (op : String) (a b : Int) : Option Bool :=
  match op with
  | "-eq" => some (a = b)
  | "-ne" => some (a ≠ b)
  | "-lt" => some (a < b)
  | "-le" => some (a ≤ b)
  | "-gt" => some (a > b)
  | "-ge" => some (a ≥ b)
  | _ => none

/-- A whole number with a sign or without. -/
def integer? (s : String) : Option Int := Text.integer? (Text.trimChars s.toList)

/-- The answer of a test of one or two words. -/
def plainTest? (fs : Files) : List String → Option Bool
  | [a] => some (a ≠ "")
  | ["!", a] => some (a = "")
  | ["-n", a] => some (a ≠ "")
  | ["-z", a] => some (a = "")
  | ["-d", a] => some (fs.isFolder a)
  | ["-f", a] => some (pathExists fs a && !fs.isFolder a)
  | [op, a] => if ["-e", "-r", "-w", "-s"].contains op then some (pathExists fs a) else none
  | _ => none

/-- The answer of a test that compares two words. -/
def comparison? (a op b : String) : Option Bool :=
  match op with
  | "=" => some (a = b)
  | "==" => some (a = b)
  | "!=" => some (a ≠ b)
  | _ => do compare? op (← integer? a) (← integer? b)

/-- The answer of a test, if its words make sense. -/
def test? (fs : Files) : List String → Option Bool
  | [] => some false
  | [a] => plainTest? fs [a]
  | [a, b] => plainTest? fs [a, b]
  | ["!", a, b] => (plainTest? fs [a, b]).map (!·)
  | [a, op, b] => comparison? a op b
  | "!" :: rest => (test? fs rest).map (!·)
  | a :: op :: b :: "-a" :: rest => do
    return (← comparison? a op b) && (← test? fs rest)
  | a :: op :: b :: "-o" :: rest => do
    return (← comparison? a op b) || (← test? fs rest)
  | a :: b :: "-a" :: rest => do
    return (← plainTest? fs [a, b]) && (← test? fs rest)
  | a :: b :: "-o" :: rest => do
    return (← plainTest? fs [a, b]) || (← test? fs rest)
  | _ => none

/-- The status that a test ends with. -/
def testStatus (fs : Files) (bracket : Bool) (args : List String) : Nat :=
  let answer :=
    if !bracket then test? fs args
    else if args.getLast? = some "]" then test? fs args.dropLast
    else none
  match answer with
  | some true => 0
  | some false => 1
  | none => 2

/-! ## Words -/

/-- The state of a shell. -/
structure ShellState where
  env : Dict String
  /-- What `$0` stands for. -/
  zero : String
  /-- What `$1` and so on stand for. -/
  args : List String
  status : Nat
  /-- Milliseconds since the shell was started. -/
  elapsed : Nat
  /-- What to do on signals. -/
  traps : Dict String

/-- The number that a shell has as a process. -/
def ownNumber : String := "4242"

/-- The value of a variable, if it is set. -/
def value? (s : ShellState) (name : String) : Option String :=
  match name with
  | "$" => some ownNumber
  | "?" => some (Text.naturalText s.status)
  | "#" => some (Text.naturalText s.args.length)
  | "0" => some s.zero
  | "@" => some (Text.joinWith " " s.args)
  | "*" => some (Text.joinWith " " s.args)
  | _ =>
    match Text.natural? 9 name.toList with
    | some n => s.args[n - 1]?
    | none => s.env.get? name

/-- The fields of a word, the last one in front and still open. -/
def addPart (s : ShellState) (fields : List String × Option String) (part : Shell.Part) :
    List String × Option String :=
  let (done, open?) := fields
  let attach := fun (text : String) => (done, some (open?.getD "" ++ text))
  match part with
  | .quotes => attach ""
  | .text text => attach text
  | .variable name default? quoted =>
    let found := (value? s name).filter fun v => v ≠ "" || default?.isNone
    let value := (found <|> default?).getD ""
    if quoted then
      if name = "@" then
        match s.args with
        | [] => (done, open?)
        | first :: rest =>
          let all := (open?.getD "" ++ first) :: rest
          (done ++ all.dropLast, all.getLast?)
      else attach value
    else
      let pieces := Text.split ' ' (String.ofList (value.toList.map fun c =>
        if c = '\t' || c = '\n' then ' ' else c))
      match pieces with
      | [] => fields
      | [piece] => if piece = "" then fields else attach piece
      | first :: rest =>
        let head := (open?.map (· ++ first)).getD first
        let done := done ++ (if head = "" && open?.isNone then [] else [head])
        (done ++ (rest.dropLast.filter (· ≠ "")), rest.getLast?.filter (· ≠ ""))

/-- The fields of a word. -/
def fields (s : ShellState) (w : Shell.Word) : List String :=
  let (done, open?) := w.foldl (addPart s) ([], none)
  done ++ open?.toList

/-- The text of a word that is not split. -/
def unsplit (s : ShellState) (w : Shell.Word) : String := Text.joinWith " " (fields s w)

/-! ## Running -/

/-- Where the run of a shell has come to. -/
inductive Course where
  | goesOn (s : ShellState)
  | ended (after : Nat) (status : ExitStatus)
  | runsOn

/-- The host as programs see it: its files, and which programs a list of folders offers. -/
structure Surroundings where
  files : Files
  offers : (folders : Option String) → (name : String) → Bool

/-- The last part of a path. -/
def baseName (path : String) : String := ((Text.split '/' path).getLast?).getD ""

/-- Go on after some time with a status. -/
def after (s : ShellState) (millis status : Nat) : Course :=
  .goesOn { s with elapsed := s.elapsed + millis, status }

/-- Go on with a status. -/
def settle (s : ShellState) (status : Nat) : Course := after s 0 status

/-- The fate of a plain program. -/
def plainFate (fs : Files) (env : Variables) (name : String) (args : List String) : Fate :=
  let done := fun (n : Nat) => Fate.ends 1 (.code n)
  match name with
  | "false" => done 1
  | "sleep" =>
    if args.isEmpty then done 1
    else
      match args.mapM duration? with
      | none => done 1
      | some times =>
        match times.mapM id with
        | none => .runsOn
        | some times => .ends (times.foldl (· + ·) 1) (.code 0)
  | "test" => done (testStatus fs false args)
  | "[" => done (testStatus fs true args)
  | "cat" => done (if args.all fun a => a = "-" || (fs.read a).toBool then 0 else 1)
  | "tail" => if args.any fun a => a.startsWith "-f" then .runsOn else done 0
  | "yes" => .runsOn
  | "printenv" => done (if args.all fun a => (env.first? a).isSome then 0 else 1)
  | "kill" => done 1
  | _ => done 0

/-- The options that may stand in front of a shell's text, up to the one that announces it. -/
def shellText? : List String → Option (String × List String)
  | option :: rest =>
    if option.startsWith "-" && option.toList.getLast? = some 'c' then
      match rest with
      | text :: args => some (text, args)
      | [] => none
    else if option.startsWith "-" then shellText? rest
    else none
  | [] => none

/-- The signal and the processes that a command names. -/
def killWords : List String → Option (Nat × List String)
  | "-s" :: name :: rest => (signal? name).map fun n => (n, rest)
  | "-n" :: name :: rest => (signal? name).map fun n => (n, rest)
  | word :: rest =>
    if word.startsWith "-" && word ≠ "--" then
      (signal? (word.drop 1).toString).map fun n => (n, rest)
    else if word = "--" then some (15, rest)
    else some (15, word :: rest)
  | [] => none

mutual

/-- The fate of a program: a shell that is given its text runs it, the others are plain. -/
def fate (around : Surroundings) : (fuel : Nat) → (env : Variables) → (program : String) →
    (args : List String) → Fate
  | 0, _, _, _ => .runsOn
  | fuel + 1, env, program, args =>
    let name := baseName program
    if name = "env" then
      let settings := args.takeWhile fun a => a.toList.contains '='
      match args.drop settings.length with
      | [] => .ends 1 (.code 0)
      | program :: args =>
        let env := (settings.filterMap fun a => Text.cutAt? "=" a).foldl
          (fun (env : Variables) e => env.put e.1 e.2) env
        if !around.offers (env.first? "PATH") program then .ends 1 (.code 127)
        else fate around fuel env program args
    else if ["sh", "dash", "bash"].contains name then
      match shellText? args with
      | none => .ends 1 (.code (if args.isEmpty then 0 else 2))
      | some (text, args) =>
        match Shell.read? text with
        | none => .ends 1 (.code 2)
        | some script =>
          match run around fuel ⟨env.shell, args.head?.getD program, args.tail, 0, 1, ∅⟩ script with
          | .goesOn s => .ends s.elapsed (.code s.status)
          | .ended after status => .ends after status
          | .runsOn => .runsOn
    else plainFate around.files env name args

/-- Send a signal to the shell itself. -/
def signalSelf (around : Surroundings) : (fuel : Nat) → ShellState → (signal : Nat) → Course
  | 0, _, _ => .runsOn
  | fuel + 1, s, signal =>
    match (ExitStatus.signalName? signal).bind s.traps.get? with
    | some text =>
      if signal = 9 || signal = 19 then .ended s.elapsed (.signal signal)
      else
        match Shell.read? text with
        | none => settle s 0
        | some script => run around fuel { s with status := 0 } script
    | none =>
      if ignoredSignals.contains signal then settle s 0
      else if haltingSignals.contains signal then .runsOn
      else .ended s.elapsed (.signal signal)

/-- Run one command of a shell: one that the shell knows itself, or a program. -/
def runWords (around : Surroundings) : (fuel : Nat) → ShellState → (words : List String) → Course
  | 0, _, _ => .runsOn
  | _, s, [] => .goesOn s
  | fuel + 1, s, name :: args =>
    let through := fun (fate : Fate) => match fate with
      | .ends millis (.code n) => after s millis n
      | .ends millis (.signal n) => after s millis (128 + n)
      | .runsOn => Course.runsOn
    match name with
    | ":" => settle s 0
    | "exit" =>
      match args with
      | [] => .ended s.elapsed (.code s.status)
      | n :: _ =>
        match Text.digits? n.toList with
        | some n => .ended s.elapsed (.code (n % 256))
        | none => .ended s.elapsed (.code 2)
    | "kill" =>
      match killWords args with
      | none => settle s 1
      | some (signal, targets) =>
        if targets.contains ownNumber then signalSelf around fuel s signal else settle s 1
    | "read" =>
      let names := args.filter fun a => !a.startsWith "-"
      settle { s with env := s.env.insertMany (names.map fun n => (n, "")) } 1
    | "export" =>
      settle { s with env := s.env.insertMany (args.filterMap fun a => Text.cutAt? "=" a) } 0
    | "unset" => settle { s with env := args.foldl Dict.erase s.env } 0
    | "shift" => settle { s with args := s.args.drop 1 } 0
    | "set" => settle s 0
    | "wait" => settle s 0
    | "cd" => settle s (if args.all around.files.isFolder then 0 else 2)
    | "trap" =>
      match args with
      | text :: signals =>
        let named := signals.filterMap fun x => (signal? x).bind ExitStatus.signalName?
        settle { s with traps := s.traps.insertMany (named.map fun n => (n, text)) } 0
      | [] => settle s 0
    | "exec" =>
      match args with
      | [] => settle s 0
      | program :: args =>
        if !around.offers (s.env.get? "PATH") program then .ended s.elapsed (.code 127)
        else
          match fate around fuel s.env.toList program args with
          | .ends millis status => .ended (s.elapsed + millis) status
          | .runsOn => .runsOn
    | _ =>
      if ["true", "false", "test", "[", "echo", "printf", "pwd"].contains name then
        match plainFate around.files s.env.toList name args with
        | .ends _ (.code n) => settle s n
        | _ => settle s 0
      else if !around.offers (s.env.get? "PATH") name then settle s 127
      else through (fate around fuel s.env.toList name args)

/-- Run a script of a shell. -/
def run (around : Surroundings) : (fuel : Nat) → ShellState → Shell.Script → Course
  | 0, _, _ => .runsOn
  | fuel + 1, s, script =>
    let thenDo := fun (first : Course) (next : ShellState → Course) => match first with
      | .goesOn s => next s
      | course => course
    match script with
    | .nothing => .goesOn s
    | .simple settings words =>
      let here := settings.foldl (fun (s : ShellState) e =>
        { s with env := s.env.insert e.1 (unsplit s e.2) }) s
      match words.flatMap (fields s) with
      | [] => settle here 0
      | words =>
        -- Settings in front of a command hold for that command only.
        thenDo (runWords around fuel here words) fun after =>
          .goesOn (if settings.isEmpty then after else { after with env := s.env })
    | .sequence first second => thenDo (run around fuel s first) fun s => run around fuel s second
    | .both first second =>
      thenDo (run around fuel s first) fun s =>
        if s.status = 0 then run around fuel s second else .goesOn s
    | .either first second =>
      thenDo (run around fuel s first) fun s =>
        if s.status = 0 then .goesOn s else run around fuel s second
    | .negated inner =>
      thenDo (run around fuel s inner) fun s => settle s (if s.status = 0 then 1 else 0)
    | .aside _ => settle s 0
    | .choice test yes no =>
      thenDo (run around fuel s test) fun s =>
        if s.status = 0 then run around fuel s yes else run around fuel { s with status := 0 } no
    | .loop wanted test body =>
      thenDo (run around fuel s test) fun s =>
        if (s.status = 0) = wanted then
          thenDo (run around fuel s body) fun s => run around fuel s (.loop wanted test body)
        else settle s 0

end

/-- Steps that a program is followed for; one that takes more counts as running on. -/
def maxSteps : Nat := 2000

end Program

end KernelGate
