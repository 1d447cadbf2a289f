import KernelGate.Dict
import KernelGate.Text.Cut
import KernelGate.Text.Decimal

/-!
# The language of the command shell

Reading the part of the shell's language that commands of kernels use: words with quotes and
variables, commands joined by `;`, `&&` and `||`, groups, conditions and loops. A text outside that
part is not read.
-/

namespace KernelGate.Shell

/-- A part of a word; a quoted one is never split at blanks. -/
inductive Part where
  | text (s : String)
  /-- The value of a variable, or of a default where it is not set. -/
  | variable (name : String) (default? : Option String) (quoted : Bool)
  /-- A pair of quotes, which makes a word even if nothing stands between them. -/
  | quotes
  deriving DecidableEq, Repr, Inhabited

/-- A word. -/
abbrev Word := List Part

/-- A piece of the shell's language. -/
inductive Token where
  | word (w : Word)
  | operator (s : String)
  deriving DecidableEq, Repr, Inhabited

/-- A command of the shell. -/
inductive Script where
  | nothing
  /-- Variables that are set, and the words of a command. -/
  | simple (settings : List (String × Word)) (words : List Word)
  | sequence (first second : Script)
  | both (first second : Script)
  | either (first second : Script)
  | negated (s : Script)
  | aside (s : Script)
  | choice (test yes no : Script)
  | loop (wanted : Bool) (test body : Script)
  deriving Repr, Inhabited

/-! ## Tokens -/

/-- Letters, digits and `_`. -/
def isNameChar (c : Char) : Bool := c.isAlphanum || c = '_'

/-- A name with a default behind it, as it stands between braces. -/
def braced (cs : List Char) : Option (String × Option String) :=
  let name := cs.takeWhile isNameChar
  if name.isEmpty then none
  else
    match cs.dropWhile isNameChar with
    | [] => some (String.ofList name, none)
    | ':' :: '-' :: rest => some (String.ofList name, some (String.ofList rest))
    | '-' :: rest => some (String.ofList name, some (String.ofList rest))
    | _ => none

/-- The variable that stands behind a dollar sign, and what comes behind it. -/
def reference? (quoted : Bool) (cs : List Char) : Option (Part × List Char) :=
  match cs with
  | '\x7b' :: rest =>
    match rest.dropWhile (· ≠ '\x7d') with
    | _ :: behind =>
      (braced (rest.takeWhile (· ≠ '\x7d'))).map fun (name, default?) =>
        (.variable name default? quoted, behind)
    | [] => none
  | c :: rest =>
    if c.isDigit || "$?#@*!".toList.contains c then
      some (.variable (String.singleton c) none quoted, rest)
    else if isNameChar c then
      some (.variable (String.ofList (cs.takeWhile isNameChar)) none quoted,
        cs.dropWhile isNameChar)
    else none
  | [] => none

/-- The parts up to the closing double quote, and what comes behind it. -/
def doubleQuoted : (fuel : Nat) → List Char → Option (Word × List Char)
  | 0, _ => none
  | _, [] => none
  | _ + 1, '"' :: rest => some ([], rest)
  | fuel + 1, '\\' :: c :: rest =>
    let kept := if "$\"\\".toList.contains c then String.singleton c
      else String.ofList ['\\', c]
    (doubleQuoted fuel rest).map fun (w, behind) => (.text kept :: w, behind)
  | fuel + 1, '$' :: rest =>
    match reference? true rest with
    | some (part, rest) => (doubleQuoted fuel rest).map fun (w, behind) => (part :: w, behind)
    | none => (doubleQuoted fuel rest).map fun (w, behind) => (.text "$" :: w, behind)
  | fuel + 1, c :: rest =>
    (doubleQuoted fuel rest).map fun (w, behind) => (.text (String.singleton c) :: w, behind)

/-- The operator that a text starts with, and what comes behind it. -/
def operator? : List Char → Option (String × List Char)
  | '&' :: '&' :: rest => some ("&&", rest)
  | '|' :: '|' :: rest => some ("||", rest)
  | '>' :: '>' :: rest => some (">", rest)
  | '>' :: '&' :: rest => some (">", rest)
  | '<' :: rest => some (">", rest)
  | '>' :: rest => some (">", rest)
  | ';' :: rest => some (";", rest)
  | '\n' :: rest => some (";", rest)
  | '&' :: rest => some ("&", rest)
  | '(' :: rest => some ("(", rest)
  | ')' :: rest => some (")", rest)
  | _ => none

/-- Whether a word is a number in front of a redirection. -/
def isNumber (w : Word) : Bool :=
  w.all fun
    | Part.text s => s.toList.all Char.isDigit
    | _ => false

/-- The tokens of a text; `current?` is the word that has been begun. -/
def tokens : (fuel : Nat) → (current? : Option Word) → List Char → Option (List Token)
  | 0, _, _ => none
  | fuel + 1, current?, cs =>
    let close := fun (rest : List Token) => match current? with
      | some w => .word w :: rest
      | none => rest
    let add := fun (parts : Word) => some (current?.getD [] ++ parts)
    match cs with
    | [] => some (close [])
    | '\x27' :: rest =>
      match rest.dropWhile (· ≠ '\x27') with
      | _ :: behind =>
        tokens fuel (add [.quotes, .text (String.ofList (rest.takeWhile (· ≠ '\x27')))]) behind
      | [] => none
    | '"' :: rest => do
      let (w, behind) ← doubleQuoted (rest.length + 1) rest
      tokens fuel (add (.quotes :: w)) behind
    | '\\' :: c :: rest => tokens fuel (add [.text (String.singleton c)]) rest
    | '$' :: rest =>
      match reference? false rest with
      | some (part, behind) => tokens fuel (add [part]) behind
      | none => tokens fuel (add [.text "$"]) rest
    | c :: rest =>
      if c = ' ' || c = '\t' then (tokens fuel none rest).map close
      else if c = '#' && current?.isNone then tokens fuel none (rest.dropWhile (· ≠ '\n'))
      else
        match operator? cs with
        | some (op, behind) =>
          -- The number of a redirection is no word of the command.
          let numbered := op = ">" && (current?.map isNumber).getD false
          (tokens fuel none behind).map fun ts =>
            if numbered then .operator op :: ts else close (.operator op :: ts)
        | none => tokens fuel (add [.text (String.singleton c)]) rest

/-! ## Commands -/

/-- The text of a word that has no variables and no quotes. -/
def plain? (w : Word) : Option String :=
  (w.mapM fun
    | Part.text s => some s
    | _ => none).map fun parts => String.join parts

/-- The word that stands first, if it is a plain one. -/
def keyword? : List Token → Option String
  | .word w :: _ => plain? w
  | .operator s :: _ => some s
  | [] => none

/-- Words that close what another word has opened. -/
def closers : List String := ["then", "else", "elif", "fi", "do", "done", "\x7d", ")"]

/-- A variable that a word sets: a name, the sign of equality and a value. -/
def setting? (w : Word) : Option (String × Word) :=
  let chars := w.takeWhile fun
    | Part.text s => s ≠ "="
    | _ => false
  match plain? chars, w.drop chars.length with
  | some name, _ :: value =>
    if name ≠ "" && name.toList.all isNameChar && !((name.toList.head?.map Char.isDigit).getD true)
    then some (name, value) else none
  | _, _ => none

/-- The words of one command, without redirections, and what comes behind them. -/
def simpleWords : (fuel : Nat) → List Token → List Word × List Token
  | 0, ts => ([], ts)
  | fuel + 1, .operator ">" :: .word _ :: rest => simpleWords fuel rest
  | fuel + 1, .word w :: rest =>
    let (ws, behind) := simpleWords fuel rest
    (w :: ws, behind)
  | _ + 1, ts => ([], ts)

/-- Variables that are set in front of a command, and the words of the command. -/
def splitSettings : List Word → List (String × Word) × List Word
  | [] => ([], [])
  | w :: ws =>
    match setting? w with
    | some s =>
      let (settings, words) := splitSettings ws
      (s :: settings, words)
    | none => ([], w :: ws)

/-- What comes behind a word that must stand first. -/
def expect (word : String) (ts : List Token) : Option (List Token) :=
  if keyword? ts = some word then some ts.tail else none

mutual

/-- Commands one after the other, up to a word that closes them. -/
def list : (fuel : Nat) → List Token → Option (Script × List Token)
  | 0, _ => none
  | fuel + 1, ts =>
    match keyword? ts with
    | some ";" => list fuel ts.tail
    | word? =>
      if ts.isEmpty || closers.contains (word?.getD "") then some (.nothing, ts)
      else do
        let (first, rest) ← chain fuel ts
        match keyword? rest with
        | some ";" =>
          let (second, rest) ← list fuel rest.tail
          some (.sequence first second, rest)
        | some "&" =>
          let (second, rest) ← list fuel rest.tail
          some (.sequence (.aside first) second, rest)
        | _ => some (first, rest)

/-- Commands joined by `&&` and `||`. -/
def chain : (fuel : Nat) → List Token → Option (Script × List Token)
  | 0, _ => none
  | fuel + 1, ts => do
    let (first, rest) ← command fuel ts
    links fuel first rest

/-- The rest of a chain. -/
def links : (fuel : Nat) → Script → List Token → Option (Script × List Token)
  | 0, _, _ => none
  | fuel + 1, first, ts =>
    match keyword? ts with
    | some "&&" => do
      let (second, rest) ← command fuel (ts.tail.dropWhile (· = .operator ";"))
      links fuel (.both first second) rest
    | some "||" => do
      let (second, rest) ← command fuel (ts.tail.dropWhile (· = .operator ";"))
      links fuel (.either first second) rest
    | _ => some (first, ts)

/-- One command. -/
def command : (fuel : Nat) → List Token → Option (Script × List Token)
  | 0, _ => none
  | fuel + 1, ts =>
    match keyword? ts with
    | some "!" => do
      let (s, rest) ← command fuel ts.tail
      some (.negated s, rest)
    | some "\x7b" => do
      let (s, rest) ← list fuel ts.tail
      some (s, ← expect "\x7d" rest)
    | some "(" => do
      let (s, rest) ← list fuel ts.tail
      some (s, ← expect ")" rest)
    | some "if" => condition fuel ts.tail
    | some "while" => loop fuel true ts.tail
    | some "until" => loop fuel false ts.tail
    | _ =>
      let (words, rest) := simpleWords (ts.length + 1) ts
      if words.isEmpty then none
      else
        let (settings, words) := splitSettings words
        some (.simple settings words, rest)

/-- A condition behind its first word. -/
def condition : (fuel : Nat) → List Token → Option (Script × List Token)
  | 0, _ => none
  | fuel + 1, ts => do
    let (test, rest) ← list fuel ts
    let (yes, rest) ← list fuel (← expect "then" rest)
    match keyword? rest with
    | some "elif" =>
      let (no, rest) ← condition fuel rest.tail
      some (.choice test yes no, rest)
    | some "else" =>
      let (no, rest) ← list fuel rest.tail
      some (.choice test yes no, ← expect "fi" rest)
    | _ => some (.choice test yes .nothing, ← expect "fi" rest)

/-- A loop behind its first word. -/
def loop : (fuel : Nat) → Bool → List Token → Option (Script × List Token)
  | 0, _, _ => none
  | fuel + 1, wanted, ts => do
    let (test, rest) ← list fuel ts
    let (body, rest) ← list fuel (← expect "do" rest)
    some (.loop wanted test body, ← expect "done" rest)

end

/-- Read a text in the shell's language. -/
def read? (text : String) : Option Script := do
  let cs := text.toList
  let ts ← tokens (2 * cs.length + 2) none cs
  match ← list (8 * ts.length + 8) ts with
  | (s, []) => some s
  | _ => none

end KernelGate.Shell
