import KernelGate.Port.Range
import KernelGate.Setting.Source

/-!
# Arguments of the command

Options in a long form, `--port 80` or `--port=80`, and some in a short one, `-c file` or `-cfile`.
An option that takes one value may come once only; assignments may be repeated. The first argument
that does not fit ends the reading, as does a wish for help.
-/

namespace KernelGate

/-- What the command is told. -/
structure Invocation where
  configPath? : Option String
  ip? : Option String
  port? : Option Port
  api? : Option String
  logLevel? : Option String
  /-- Assignments to settings, in turn. -/
  assignments : List String
  deriving DecidableEq

/-- Why the command does not run. -/
inductive Refused where
  | help
  | misuse
  deriving DecidableEq, Repr, Inhabited

/-- An option. -/
inductive CommandOption where
  | config
  | ip
  | port
  | api
  | logLevel
  | assignment
  | help
  deriving DecidableEq, Repr, Inhabited

namespace CommandOption

/-- The options by their long names. -/
def byName : List (String × CommandOption) :=
  [("config", config), ("ip", ip), ("port", port), ("api", api), ("log-level", logLevel),
    ("set", assignment), ("help", help)]

/-- The options by their letters. -/
def byLetter : List (Char × CommandOption) := [('c', config), ('s', assignment), ('h', help)]

/-- The option of a long name. -/
def ofName? (name : String) : Option CommandOption := (byName.find? (·.1 = name)).map (·.2)

/-- The option of a letter. -/
def ofLetter? (letter : Char) : Option CommandOption :=
  (byLetter.find? (·.1 = letter)).map (·.2)

end CommandOption

namespace Invocation

/-- Nothing said. -/
def silent : Invocation := ⟨none, none, none, none, none, []⟩

instance : Inhabited Invocation := ⟨silent⟩

/-- A port number; it may have a sign. -/
def readPort? (value : String) : Option Port :=
  (Text.integer? value.toList).bind Port.ofInt?

/-- Keep a value that is the first of its option. -/
def once {α : Type} (old? : Option α) (value : α) : Except Refused (Option α) :=
  match old? with
  | none => .ok (some value)
  | some _ => .error .misuse

/-- Take in an option with its value. -/
def take (inv : Invocation) (option : CommandOption) (value : String) :
    Except Refused Invocation :=
  match option with
  | .config => do
    let configPath? ← once inv.configPath? value
    if value = "" then throw .misuse
    return { inv with configPath? }
  | .ip => do return { inv with ip? := ← once inv.ip? value }
  | .port => do
    match readPort? value with
    | none => throw .misuse
    | some p => return { inv with port? := ← once inv.port? p }
  | .api => do return { inv with api? := ← once inv.api? value }
  | .logLevel => do return { inv with logLevel? := ← once inv.logLevel? value }
  | .assignment => return { inv with assignments := inv.assignments ++ [value] }
  | .help => throw .help

/-- What an argument is: an option, perhaps with its value, or something else. -/
inductive Shape where
  | option (o : CommandOption) (value? : Option String)
  /-- The sign that no more options follow. -/
  | rest
  | other

/-- Look at an argument. -/
def shape (arg : String) : Shape :=
  match arg.toList with
  | ['-', '-'] => .rest
  | '-' :: '-' :: long =>
    let name := String.ofList (long.takeWhile (· ≠ '='))
    let value? := match long.dropWhile (· ≠ '=') with
      | _ :: value => some (String.ofList value)
      | [] => none
    match CommandOption.ofName? name with
    | none => .other
    | some .help => if value?.isSome then .other else .option .help none
    | some o => .option o value?
  | '-' :: letter :: behind =>
    match CommandOption.ofLetter? letter with
    | none => .other
    | some o =>
      match behind with
      | [] => .option o none
      | '=' :: value => .option o (some (String.ofList value))
      | value => .option o (some (String.ofList value))
  | _ => .other

/-- Whether an argument can be the value of the option in front of it. -/
def isValue (arg : String) : Bool := arg = "-" || arg.toList.head? ≠ some '-'

/-- Read arguments. -/
def read (inv : Invocation) : List String → Except Refused Invocation
  | [] => .ok inv
  | arg :: args =>
    match shape arg with
    | .other => .error .misuse
    | .rest => if args.isEmpty then .ok inv else .error .misuse
    | .option .help _ => .error .help
    | .option o (some value) => do
      let inv ← inv.take o value
      read inv args
    | .option o none =>
      match args with
      | [] => .error .misuse
      | value :: args =>
        if isValue value then do
          let inv ← inv.take o value
          read inv args
        else .error .misuse

/-- Read the arguments of the command. -/
def ofArguments (args : List String) : Except Refused Invocation := silent.read args

/-- The overrides that the command line stands for: assignments, and over them the options of their
own. -/
def overrides (inv : Invocation) : Except ConfigFault Overrides := do
  let o ← inv.assignments.foldlM (fun o text => o.assign text) Overrides.empty
  let o ← match inv.ip? with
    | some ip => o.insert Setting.ip.name (.text ip)
    | none => pure o
  let o ← match inv.port? with
    | some port => o.insert Setting.port.name (.integer port.val)
    | none => pure o
  match inv.api? with
  | some api => o.insert Setting.api.name (.text api)
  | none => pure o

end Invocation

end KernelGate
