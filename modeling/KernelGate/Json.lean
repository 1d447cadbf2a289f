import KernelGate.Text.Decimal

/-!
# JSON values and their text

The values that the gateway writes as JSON, and two ways to write them: `compact` on one line
without blanks, `pretty` with one item a line and two blanks for each level. Only what JSON demands
is escaped, by the short escape where there is one.
-/

namespace KernelGate

/-- A JSON value; the fields of an object stand in the order in which they are written. -/
inductive Json where
  | null
  | boolean (b : Bool)
  | number (n : Nat)
  | text (s : String)
  | array (items : List Json)
  | object (fields : List (String × Json))
  deriving Inhabited

namespace Json

/-- A character between quotation marks. -/
def escapedChar (c : Char) : List Char :=
  match c with
  | '"' => ['\\', '"']
  | '\\' => ['\\', '\\']
  | '\x08' => ['\\', 'b']
  | '\x0c' => ['\\', 'f']
  | '\n' => ['\\', 'n']
  | '\r' => ['\\', 'r']
  | '\t' => ['\\', 't']
  | c => if c.toNat < 0x20 then '\\' :: 'u' :: Text.hexDigits 4 c.toNat else [c]

/-- A text between quotation marks. -/
def textChars (s : String) : List Char := '"' :: s.toList.flatMap escapedChar ++ ['"']

mutual

/-- A value on one line without blanks. -/
def compactChars : Json → List Char
  | null => "null".toList
  | boolean b => (if b then "true" else "false").toList
  | number n => Text.digits n
  | text s => textChars s
  | array items => '[' :: compactItems items ++ [']']
  | object fields => '\x7b' :: compactFields fields ++ ['\x7d']

/-- Items with commas between them. -/
def compactItems : List Json → List Char
  | [] => []
  | [v] => v.compactChars
  | v :: w :: rest => v.compactChars ++ ',' :: compactItems (w :: rest)

/-- Fields with commas between them. -/
def compactFields : List (String × Json) → List Char
  | [] => []
  | [(k, v)] => textChars k ++ ':' :: v.compactChars
  | (k, v) :: f :: rest => textChars k ++ ':' :: v.compactChars ++ ',' :: compactFields (f :: rest)

end

/-- A value on one line without blanks. -/
def compact (j : Json) : String := String.ofList j.compactChars

/-- A line end and the blanks of a level. -/
def newLine (level : Nat) : List Char := '\n' :: List.replicate (2 * level) ' '

mutual

/-- A value with one item a line. -/
def prettyChars (level : Nat) : Json → List Char
  | null => "null".toList
  | boolean b => (if b then "true" else "false").toList
  | number n => Text.digits n
  | text s => textChars s
  | array items =>
    if items.isEmpty then ['[', ']']
    else '[' :: prettyItems (level + 1) items ++ newLine level ++ [']']
  | object fields =>
    if fields.isEmpty then ['\x7b', '\x7d']
    else '\x7b' :: prettyFields (level + 1) fields ++ newLine level ++ ['\x7d']

/-- Items, each on lines of its own. -/
def prettyItems (level : Nat) : List Json → List Char
  | [] => []
  | [v] => newLine level ++ v.prettyChars level
  | v :: w :: rest => newLine level ++ v.prettyChars level ++ ',' :: prettyItems level (w :: rest)

/-- Fields, each on lines of its own. -/
def prettyFields (level : Nat) : List (String × Json) → List Char
  | [] => []
  | [(k, v)] => newLine level ++ textChars k ++ ':' :: ' ' :: v.prettyChars level
  | (k, v) :: f :: rest =>
    newLine level ++ textChars k ++ ':' :: ' ' :: v.prettyChars level ++
      ',' :: prettyFields level (f :: rest)

end

/-- A value with one item a line. -/
def pretty (j : Json) : String := String.ofList (j.prettyChars 0)

end Json

end KernelGate
