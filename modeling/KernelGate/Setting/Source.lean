import KernelGate.Setting.Value

/-!
# Where settings come from

A setting takes its value from an override if there is one, else from its environment variable if
that is set and not empty, else from its default. Overrides come from the configuration file and
the command line; a later layer lies over an earlier one.

Main statements: `Sources.resolve_eq_read` (only the winning source counts),
`Overrides.get?_overlay` (a later layer wins).
-/

namespace KernelGate

/-- Explicit values by the name of their setting. -/
structure Overrides where
  values : Toml.Table
  deriving Inhabited

namespace Overrides

/-- No overrides. -/
def empty : Overrides := ⟨∅⟩

/-- The override of a setting. -/
def get? (o : Overrides) (name : String) : Option Toml.Value := o.values.get? name

/-- Add an override; the name must be that of a known setting. -/
def insert (o : Overrides) (name : String) (v : Toml.Value) : Except ConfigFault Overrides :=
  match Setting.lookup? name with
  | none => .error (.unknownSetting name)
  | some _ => .ok ⟨o.values.insert name v⟩

/-- Name and value of an assignment; the name ends at the first equals sign. -/
def assignment? (text : String) : Option (String × String) :=
  (Text.cutAt? "=" text).map fun p => (Text.trim p.1, p.2)

/-- Add the override that an assignment `name=value` stands for. -/
def assign (o : Overrides) (text : String) : Except ConfigFault Overrides :=
  match assignment? text with
  | none => .error (.malformedAssignment text)
  | some (name, value) => o.insert name (.text value)

/-- The overrides of a list of named values; the first unknown name is an error. -/
def ofEntries (entries : List (String × Toml.Value)) : Except ConfigFault Overrides :=
  entries.foldlM (fun o e => o.insert e.1 e.2) empty

/-- The overrides of a table, its keys taken in ascending order. -/
def ofTable (t : Toml.Table) : Except ConfigFault Overrides := ofEntries t.toList

/-- Lay other overrides over these. -/
def overlay (o other : Overrides) : Overrides := ⟨o.values.overlay other.values⟩

theorem get?_overlay (o other : Overrides) (name : String) :
    (o.overlay other).get? name = (other.get? name).or (o.get? name) :=
  Dict.get?_overlay _ _ _

end Overrides

/-- Environment variables by name. -/
abbrev Environment := Dict String

/-- The source that settles a setting. -/
inductive Source where
  | override (v : Toml.Value)
  | text (raw : String)
  | nothing

/-- All that settings are read from. -/
structure Sources where
  overrides : Overrides
  environment : Environment

namespace Sources

/-- The value of an environment variable that is set and not empty. -/
def envText? (s : Sources) (name : String) : Option String :=
  (s.environment.get? name).filter (· ≠ "")

/-- The source that settles a setting: override, environment, default. -/
def source (s : Sources) (setting : Setting) : Source :=
  match s.overrides.get? setting.name with
  | some v => .override v
  | none =>
    match s.envText? setting.env with
    | some raw => .text raw
    | none =>
      match setting.default? with
      | some raw => .text raw
      | none => .nothing

end Sources

/-- Read a setting from the source that settles it. -/
def Setting.read (setting : Setting) : Source → Except ConfigFault SettingValue
  | .override v => setting.ofToml v
  | .text raw => setting.parse raw
  | .nothing => .ok .unset

/-- What a setting turns out to be. -/
def Sources.resolve (s : Sources) (setting : Setting) : Except ConfigFault SettingValue :=
  setting.read (s.source setting)

theorem Sources.resolve_eq_read (s : Sources) (setting : Setting) :
    s.resolve setting = setting.read (s.source setting) := rfl

/-- What the setting of a name turns out to be. -/
def Sources.resolveNamed (s : Sources) (name : String) : Except ConfigFault SettingValue :=
  match Setting.lookup? name with
  | none => .error (.unknownSetting name)
  | some setting => s.resolve setting

end KernelGate
