import KernelGate.Config.Resolve
import KernelGate.Toml.Document
import KernelGate.Text.Utf8

/-!
# Configuration files

A configuration file is a TOML document with a table of overrides, `gateway`, and a list of kernel
specs, `kernelspecs`; nothing else may stand at its top. A spec is a table or, in the order of its
fields, an array.

`Config.load` puts file, command line and environment together.
-/

namespace KernelGate

/-- What a configuration file says. -/
structure ConfigFile where
  overrides : Toml.Table
  specs : List KernelSpec

namespace ConfigFile

/-- The file of a gateway that has none. -/
def empty : ConfigFile := ⟨∅, []⟩

/-- The text of a value that is one. -/
def text? : Toml.Value → Option String
  | .text s => some s
  | _ => none

/-- Texts by key. A date counts as the table that shows it. -/
def texts? : Toml.Value → Option (Dict String)
  | .table fields =>
    (fields.mapM fun f => (text? f.2).map fun s => (f.1, s)).map Dict.ofList
  | .datetime d => some (Dict.ofList [(Toml.datetimeKey, d.text)])
  | _ => none

/-- A list of texts. -/
def textList? : Toml.Value → Option (List String)
  | .array items => items.mapM text?
  | _ => none

/-- A spec from its fields. -/
def specOf? (name argv : Option Toml.Value) (displayName language env : Option Toml.Value) :
    Option KernelSpec := do
  let name ← text? (← name)
  let argv ← textList? (← argv)
  let displayName ← match displayName with
    | none => some ""
    | some v => text? v
  let language ← match language with
    | none => some ""
    | some v => text? v
  let env ← match env with
    | none => some ∅
    | some v => texts? v
  some { name, displayName, language, argv, env }

/-- A spec: a table, or an array of the fields in their order. -/
def spec? : Toml.Value → Option KernelSpec
  | .table fields =>
    let field := fun key => Entries.find? key fields
    specOf? (field "name") (field "argv") (field "display_name") (field "language") (field "env")
  | .array items => specOf? items[0]? items[3]? items[1]? items[2]? items[4]?
  | _ => none

/-- The table of overrides. -/
def overrides? : Toml.Node → Option Toml.Table
  | .table _ fields => (Toml.fieldValues? fields).map Dict.ofList
  | .value (.table fields) => some (Dict.ofList fields)
  | .value (.datetime d) => some (Dict.ofList [(Toml.datetimeKey, .text d.text)])
  | _ => none

/-- The list of specs. -/
def specs? (n : Toml.Node) : Option (List KernelSpec) :=
  match n.value? with
  | some (.array items) => items.mapM spec?
  | _ => none

/-- What a document says. -/
def ofFields? (fields : Toml.Fields) : Option ConfigFile :=
  if fields.all fun f => f.1 = "gateway" || f.1 = "kernelspecs" then do
    let overrides ← match fields.find? "gateway" with
      | none => some ∅
      | some n => overrides? n
    let specs ← match fields.find? "kernelspecs" with
      | none => some []
      | some n => specs? n
    some { overrides, specs }
  else none

/-- What the text of a file says. -/
def parse (text : String) : Except ConfigFault ConfigFile :=
  match (Toml.parse? text).bind ofFields? with
  | some f => .ok f
  | none => .error .undecodableFile

/-- What a file says, given the outcome of reading its bytes. -/
def ofBytes (path : String) : Except IoFault (List UInt8) → Except ConfigFault ConfigFile
  | .error cause => .error (.unreadableFile path cause)
  | .ok bytes =>
    match Utf8.text? bytes with
    | none => .error (.unreadableFile path .notUtf8)
    | some text => parse text

end ConfigFile

/-- The configuration of a file, a command line and an environment; the command line lies over the
file, and both over the environment. -/
def Config.load (file : ConfigFile) (commandLine : Overrides) (env : Environment) :
    Except ConfigFault Config := do
  let overrides ← Overrides.ofTable file.overrides
  Config.ofSources ⟨overrides.overlay commandLine, env⟩ file.specs

end KernelGate
