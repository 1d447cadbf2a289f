import KernelGate.Binary64
import KernelGate.Dict
import KernelGate.Toml.Datetime

/-!
# TOML values

The values of a TOML document, and their text on one line. Strings take the first of the four
forms of TOML strings that needs no escapes; the fields of a table stand in the order of their
keys.
-/

namespace KernelGate.Toml

/-- A TOML value. The fields of a table are in ascending key order, each key once. -/
inductive Value where
  | text (s : String)
  | integer (i : Int)
  | float (f : Binary64)
  | boolean (b : Bool)
  | datetime (d : Datetime)
  | array (items : List Value)
  | table (fields : List (String × Value))
  deriving Inhabited

/-- A table: values by key. -/
abbrev Table := Dict Value

/-! ## Strings -/

/-- Control characters that no string form but an escaped one can hold. -/
def isCode (c : Char) : Bool :=
  (c.toNat < 0x20 && c ≠ '\t' && c ≠ '\n') || c.toNat = 0x7F

/-- The longest run of a character. -/
def longestRun (mark : Char) : (run best : Nat) → List Char → Nat
  | run, best, [] => max run best
  | run, best, c :: cs =>
    if c = mark then longestRun mark (run + 1) best cs else longestRun mark 0 (max run best) cs

/-- Four hexadecimal digits in upper case. -/
def hexFour (n : Nat) : List Char := (Text.hexDigits 4 n).map Char.toUpper

/-- A character between single quotation marks of the escaped form. -/
def escapedChar (c : Char) : List Char :=
  match c with
  | '\x08' => ['\\', 'b']
  | '\t' => ['\\', 't']
  | '\n' => ['\\', 'n']
  | '\x0c' => ['\\', 'f']
  | '\r' => ['\\', 'r']
  | '"' => ['\\', '"']
  | '\\' => ['\\', '\\']
  | c => if isCode c then '\\' :: 'u' :: hexFour c.toNat else [c]

/-- The inside of the escaped form over several lines: every third quotation mark of a run is
escaped, and line ends stand for themselves. -/
def escapedLines : (run : Nat) → List Char → List Char
  | _, [] => []
  | run, c :: cs =>
    if c = '"' then
      if run = 2 then '\\' :: '"' :: escapedLines 0 cs else '"' :: escapedLines (run + 1) cs
    else if c = '\n' then '\n' :: escapedLines 0 cs
    else escapedChar c ++ escapedLines 0 cs

/-- A string in the first form that holds it without escapes, else in an escaped form. -/
def stringChars (cs : List Char) : List Char :=
  let codes := cs.any isCode
  let backslash := cs.contains '\\'
  let quote := cs.contains '"'
  let apostrophe := cs.contains '\''
  let line := cs.contains '\n'
  let opening := if line then ['\n'] else []
  let quotes := ['"', '"', '"']
  let apostrophes := ['\'', '\'', '\'']
  let lines := quotes ++ opening ++ escapedLines 0 cs ++ quotes
  let plain := '"' :: cs.flatMap escapedChar ++ ['"']
  if !codes && !backslash && !quote && !line then plain
  else if !codes && !apostrophe && !line then '\'' :: cs ++ ['\'']
  else if !codes && !backslash && longestRun '"' 0 0 cs ≤ 2 then lines
  else if !codes && longestRun '\'' 0 0 cs ≤ 2 then apostrophes ++ opening ++ cs ++ apostrophes
  else if line then lines
  else plain

/-- Characters of a key that needs no quotation marks. -/
def isBareKeyChar (c : Char) : Bool := c.isAlphanum || c = '_' || c = '-'

/-- A key: bare, else in the first of the two one-line forms that holds it without escapes. -/
def keyChars (cs : List Char) : List Char :=
  let codes := cs.any fun c => isCode c || c = '\n'
  if !cs.isEmpty && cs.all isBareKeyChar then cs
  else if !codes && !cs.contains '\\' && !cs.contains '"' then
    '"' :: cs.flatMap escapedChar ++ ['"']
  else if !codes && !cs.contains '\'' then '\'' :: cs ++ ['\'']
  else '"' :: cs.flatMap escapedChar ++ ['"']

/-! ## Values on one line -/

/-- The key under which a date and time stands when it is shown as a table. -/
def datetimeKey : String := "$__toml_private_datetime"

mutual

/-- A value on one line. -/
def Value.chars : Value → List Char
  | .text s => stringChars s.toList
  | .integer i => Text.signedDigits i
  | .float f => f.text.toList
  | .boolean b => (if b then "true" else "false").toList
  | .datetime d => d.text.toList
  | .array items => '[' :: itemsChars items ++ [']']
  | .table fields =>
    if fields.isEmpty then ['\x7b', '\x7d']
    else '\x7b' :: ' ' :: fieldsChars fields ++ [' ', '\x7d']

/-- Items with commas between them. -/
def itemsChars : List Value → List Char
  | [] => []
  | [v] => v.chars
  | v :: w :: rest => v.chars ++ ',' :: ' ' :: itemsChars (w :: rest)

/-- Fields with commas between them. -/
def fieldsChars : List (String × Value) → List Char
  | [] => []
  | [(k, v)] => keyChars k.toList ++ [' ', '=', ' '] ++ v.chars
  | (k, v) :: f :: rest =>
    keyChars k.toList ++ [' ', '=', ' '] ++ v.chars ++ ',' :: ' ' :: fieldsChars (f :: rest)

end

/-- The text that shows a value: a value on one line, and a date and time as a table of its
own. -/
def Value.shown : Value → String
  | .datetime d => String.ofList (Value.table [(datetimeKey, .text d.text)]).chars
  | v => String.ofList v.chars

end KernelGate.Toml
