import KernelGate.Fault
import KernelGate.Text.Blank
import KernelGate.Text.Cut
import KernelGate.Text.Quoted
import KernelGate.Toml.Value

/-!
# Values of settings

How a setting is read from text and from a TOML value, and how a value that has been read is
handed out. Text is read by the kind of the setting: integers may stand between blanks, a flag is
set by `true` in any case and cleared by anything else, and the items of lists and sets stand
between commas, where blanks around an item and empty items do not count.
-/

namespace KernelGate

/-- What a setting turns out to be. -/
inductive SettingValue where
  | unset
  | text (s : String)
  | integer (i : Int)
  | flag (b : Bool)
  | list (items : List String)
  | set (names : NameSet)
  deriving DecidableEq

namespace Setting

/-- The items of a list in text form. -/
def items (raw : String) : List String :=
  ((Text.split ',' raw).map Text.trim).filter (· ≠ "")

/-- Whether a text says that a flag is set. -/
def isTrue (raw : String) : Bool :=
  (Text.trimChars raw.toList).map Char.toLower = "true".toList

/-- Read a setting from text. -/
def parse (s : Setting) (raw : String) : Except ConfigFault SettingValue :=
  match s.kind with
  | .text => .ok (.text raw)
  | .integer =>
    match Text.integer? (Text.trimChars raw.toList) with
    | some i => .ok (.integer i)
    | none => .error (.notInteger s.name raw)
  | .flag => .ok (.flag (isTrue raw))
  | .list => .ok (.list (items raw))
  | .set => .ok (.set (.ofNames (items raw)))

/-- The text of an item of an array. -/
def itemText : Toml.Value → String
  | .text s => s
  | v => v.shown

/-- Read a setting from a TOML value. -/
def ofToml (s : Setting) (v : Toml.Value) : Except ConfigFault SettingValue :=
  match s.kind, v with
  | _, .text raw => s.parse raw
  | .integer, .integer i => .ok (.integer i)
  | .text, .integer i => .ok (.text (Text.decimal i))
  | .flag, .boolean b => .ok (.flag b)
  | .list, .array vs => .ok (.list (vs.map itemText))
  | .set, .array vs => .ok (.set (.ofNames (vs.map itemText)))
  | kind, v => .error (.wrongKind s.name kind v.shown)

end Setting

namespace SettingValue

/-- A value by its form and its content. -/
def shown : SettingValue → String
  | unset => "Unset"
  | text s => "Str(" ++ Text.quoted s ++ ")"
  | integer i => "Int(" ++ Text.decimal i ++ ")"
  | flag b => "Bool(" ++ (if b then "true" else "false") ++ ")"
  | list items => "List([" ++ Text.joinWith ", " (items.map Text.quoted) ++ "])"
  | set names => "Set(\x7b" ++ Text.joinWith ", " (names.keys.map Text.quoted) ++ "\x7d)"

/-- The value is not of the kind that a reader of the setting expects. -/
def mismatch (s : Setting) (v : SettingValue) : ConfigFault := .wrongReading s.name s.kind v.shown

/-- The text of a setting, if it is set. -/
def asText (s : Setting) : SettingValue → Except ConfigFault (Option String)
  | text t => .ok (some t)
  | unset => .ok none
  | v => .error (v.mismatch s)

/-- The integer of a setting, if it is set. -/
def asInteger (s : Setting) : SettingValue → Except ConfigFault (Option Int)
  | integer i => .ok (some i)
  | unset => .ok none
  | v => .error (v.mismatch s)

/-- The flag of a setting; one that is not set is cleared. -/
def asFlag (s : Setting) : SettingValue → Except ConfigFault Bool
  | flag b => .ok b
  | unset => .ok false
  | v => .error (v.mismatch s)

/-- The list of a setting; one that is not set is empty. -/
def asList (s : Setting) : SettingValue → Except ConfigFault (List String)
  | list items => .ok items
  | unset => .ok []
  | v => .error (v.mismatch s)

/-- The set of a setting; one that is not set is empty. -/
def asSet (s : Setting) : SettingValue → Except ConfigFault NameSet
  | set names => .ok names
  | unset => .ok ∅
  | v => .error (v.mismatch s)

end SettingValue

end KernelGate
