import KernelGate.Toml.Value

/-!
# Lexemes of TOML

Scanners for the parts of a TOML document that hold no other parts: blanks, comments, strings,
keys and scalars. A scanner takes the text that is left and gives a value and what follows it, or
nothing where the text does not start as it should.
-/

namespace KernelGate.Toml

/-- A scanner: a value in front of a text, and what follows it. -/
abbrev Scan (α : Type) := List Char → Option (α × List Char)

/-! ## Blanks, comments and line ends -/

/-- Space and tab. -/
def isSpace (c : Char) : Bool := c = ' ' || c = '\t'

/-- What follows the spaces in front. -/
def skipSpace (cs : List Char) : List Char := cs.dropWhile isSpace

/-- What follows a line end in front. -/
def lineEnd? : List Char → Option (List Char)
  | '\n' :: cs => some cs
  | '\r' :: '\n' :: cs => some cs
  | _ => none

/-- A character that may stand in a comment and in most strings: a tab, or no control. -/
def isPlain (c : Char) : Bool := c = '\t' || (0x20 ≤ c.toNat && c.toNat ≠ 0x7F)

/-- What follows a comment in front, if there is one. -/
def skipComment (cs : List Char) : List Char :=
  match cs with
  | '#' :: rest => rest.dropWhile isPlain
  | _ => cs

/-- What follows the end of a line: spaces, a comment, then a line end or the end of the text. -/
def closeLine? (cs : List Char) : Option (List Char) :=
  match skipComment (skipSpace cs) with
  | [] => some []
  | rest => lineEnd? rest

/-- What follows spaces, line ends and comments that end their lines. -/
def skipFiller : (fuel : Nat) → List Char → List Char
  | 0, cs => cs
  | fuel + 1, cs =>
    match cs with
    | '#' :: rest =>
      match lineEnd? (rest.dropWhile isPlain) with
      | some rest => skipFiller fuel rest
      | none => cs
    | c :: rest =>
      if isSpace c then skipFiller fuel rest
      else
        match lineEnd? cs with
        | some rest => skipFiller fuel rest
        | none => cs
    | [] => []

/-! ## Strings -/

/-- The character of a hexadecimal escape with a fixed number of digits. -/
def scanHexEscape? (count : Nat) (cs : List Char) : Option (Char × List Char) :=
  let ds := cs.take count
  if ds.length = count then
    (Text.hex? ds).bind fun n =>
      if h : n.isValidChar then some (Char.ofNatAux n h, cs.drop count) else none
  else none

/-- The character of an escape, behind its backslash. -/
def scanEscape? : List Char → Option (Char × List Char)
  | 'b' :: cs => some ('\x08', cs)
  | 't' :: cs => some ('\t', cs)
  | 'n' :: cs => some ('\n', cs)
  | 'f' :: cs => some ('\x0c', cs)
  | 'r' :: cs => some ('\r', cs)
  | '"' :: cs => some ('"', cs)
  | '\\' :: cs => some ('\\', cs)
  | 'u' :: cs => scanHexEscape? 4 cs
  | 'U' :: cs => scanHexEscape? 8 cs
  | _ => none

/-- The inside of a string with escapes on one line, up to its closing mark. -/
def scanEscaped : (fuel : Nat) → Scan (List Char)
  | 0, _ => none
  | fuel + 1, cs =>
    match cs with
    | '"' :: rest => some ([], rest)
    | '\\' :: rest =>
      (scanEscape? rest).bind fun p => (scanEscaped fuel p.2).map fun q => (p.1 :: q.1, q.2)
    | c :: rest =>
      if isPlain c then (scanEscaped fuel rest).map fun q => (c :: q.1, q.2) else none
    | [] => none

/-- The inside of a string without escapes on one line, up to its closing mark. -/
def scanVerbatim : Scan (List Char)
  | [] => none
  | '\'' :: rest => some ([], rest)
  | c :: rest => if isPlain c then (scanVerbatim rest).map fun q => (c :: q.1, q.2) else none

/-- The marks at the end of a string over several lines, if it ends here: three of them close it,
and one or two in front of those belong to it. -/
def closing? (mark : Char) (cs : List Char) : Option (List Char × List Char) :=
  let run := (cs.takeWhile (· = mark)).length
  if run < 3 then none
  else
    let kept := min (run - 3) 2
    some (List.replicate kept mark, cs.drop (kept + 3))

/-- What follows a backslash that ends a line, without the blank lines behind it. -/
def continued? (cs : List Char) : Option (List Char) :=
  let rec skipAll : (fuel : Nat) → List Char → List Char
    | 0, cs => cs
    | fuel + 1, cs =>
      match cs with
      | c :: rest =>
        if isSpace c then skipAll fuel rest
        else match lineEnd? cs with
          | some rest => skipAll fuel rest
          | none => cs
      | [] => []
  (lineEnd? (skipSpace cs)).map fun rest => skipAll rest.length rest

/-- The inside of a string over several lines; `escapes` says whether it has escapes. -/
def scanLines (mark : Char) (escapes : Bool) : (fuel : Nat) → Scan (List Char)
  | 0, _ => none
  | fuel + 1, cs =>
    match closing? mark cs with
    | some p => some p
    | none =>
      match lineEnd? cs with
      | some rest => (scanLines mark escapes fuel rest).map fun q => ('\n' :: q.1, q.2)
      | none =>
        match cs with
        | c :: rest =>
          if escapes && c = '\\' then
            match continued? rest with
            | some rest => scanLines mark escapes fuel rest
            | none =>
              (scanEscape? rest).bind fun p =>
                (scanLines mark escapes fuel p.2).map fun q => (p.1 :: q.1, q.2)
          else if isPlain c then
            (scanLines mark escapes fuel rest).map fun q => (c :: q.1, q.2)
          else none
        | [] => none

/-- A string on one line. -/
def scanLineString? (cs : List Char) : Option (String × List Char) :=
  match cs with
  | '"' :: rest => (scanEscaped (rest.length + 1) rest).map fun q => (String.ofList q.1, q.2)
  | '\'' :: rest => (scanVerbatim rest).map fun q => (String.ofList q.1, q.2)
  | _ => none

/-- A string over several lines, behind its opening marks. -/
def scanLinesString? (mark : Char) (cs : List Char) : Option (String × List Char) :=
  let cs := (lineEnd? cs).getD cs
  (scanLines mark (mark = '"') (cs.length + 1) cs).map fun q => (String.ofList q.1, q.2)

/-- A string of any form. -/
def scanString? (cs : List Char) : Option (String × List Char) :=
  match cs with
  | '"' :: '"' :: '"' :: rest => scanLinesString? '"' rest
  | '\'' :: '\'' :: '\'' :: rest => scanLinesString? '\'' rest
  | _ => scanLineString? cs

/-! ## Keys -/

/-- The greatest number of parts of a dotted key and of nested arrays and tables, and one. -/
def depthLimit : Nat := 80

/-- One part of a key. -/
def scanKeyPart? (cs : List Char) : Option (String × List Char) :=
  match cs with
  | '"' :: _ => scanLineString? cs
  | '\'' :: _ => scanLineString? cs
  | _ =>
    let bare := cs.takeWhile isBareKeyChar
    if bare.isEmpty then none else some (String.ofList bare, cs.dropWhile isBareKeyChar)

/-- The parts of a key with points between them. -/
def scanKeyParts : (fuel : Nat) → Scan (List String)
  | 0, _ => none
  | fuel + 1, cs => do
    let (part, rest) ← scanKeyPart? (skipSpace cs)
    match skipSpace rest with
    | '.' :: rest =>
      let (parts, rest) ← scanKeyParts fuel rest
      some (part :: parts, rest)
    | rest => some ([part], rest)

/-- A key: the parts before the last one, and the last one. -/
def scanKey? (cs : List Char) : Option ((List String × String) × List Char) := do
  let (parts, rest) ← scanKeyParts (cs.length + 1) cs
  let last ← parts.getLast?
  if parts.length < depthLimit then some ((parts.dropLast, last), rest) else none

/-! ## Numbers, flags and times -/

/-- The digits behind a digit; an underscore must have a digit behind it, and is left out. -/
def scanMoreDigits (isDigit : Char → Bool) : Scan (List Char)
  | [] => some ([], [])
  | ['_'] => none
  | '_' :: c :: rest =>
    if isDigit c then (scanMoreDigits isDigit rest).map fun q => (c :: q.1, q.2) else none
  | c :: rest =>
    if isDigit c then (scanMoreDigits isDigit rest).map fun q => (c :: q.1, q.2)
    else some ([], c :: rest)

/-- Digits with single underscores between them; the underscores are left out. -/
def scanDigitRun (isDigit : Char → Bool) : Scan (List Char)
  | [] => none
  | c :: rest =>
    if isDigit c then (scanMoreDigits isDigit rest).map fun q => (c :: q.1, q.2) else none

/-- A sign, if there is one. -/
def scanSign : List Char → List Char × List Char
  | '+' :: cs => (['+'], cs)
  | '-' :: cs => (['-'], cs)
  | cs => ([], cs)

/-- The digits of a whole number: no zero in front of others. -/
def scanWhole? (cs : List Char) : Option (List Char × List Char) :=
  match cs with
  | '0' :: rest => some (['0'], rest)
  | _ => scanDigitRun Char.isDigit cs

/-- The power of ten of a number, if there is one; none where it is broken. -/
def scanPower? (cs : List Char) : Option (List Char × List Char) :=
  match cs with
  | c :: rest =>
    if c = 'e' || c = 'E' then
      let (sign, rest) := scanSign rest
      (scanDigitRun Char.isDigit rest).map fun q => ('e' :: sign ++ q.1, q.2)
    else some ([], cs)
  | [] => some ([], cs)

/-- A number of a base other than ten. -/
def scanBased? (base : Nat) (isDigit : Char → Bool) (cs : List Char) :
    Option (Value × List Char) :=
  (scanDigitRun isDigit cs).bind fun q =>
    let n := q.1.foldl (fun n c => base * n + (Text.hexValue? c).getD 0) 0
    if (n : Int) ≤ Text.maxInt64 then some (.integer n, q.2) else none

/-- A decimal number: an integer, or with a point or a power of ten a floating-point number. -/
def scanDecimal? (cs : List Char) : Option (Value × List Char) := do
  let (sign, rest) := scanSign cs
  let (whole, rest) ← scanWhole? rest
  let (part, rest) ← match rest with
    | '.' :: rest => (scanDigitRun Char.isDigit rest).map fun q => ('.' :: q.1, q.2)
    | _ => some ([], rest)
  let (power, rest) ← scanPower? rest
  if part.isEmpty && power.isEmpty then
    let i ← Text.integer? (sign ++ whole)
    some (.integer i, rest)
  else
    let f ← Binary64.read? (sign ++ whole ++ part ++ power)
    if f = .infinity false then none else some (.float f, rest)

/-- Infinity or no number, with a sign. -/
def scanSpecial? (cs : List Char) : Option (Value × List Char) :=
  let (sign, rest) := scanSign cs
  let negative := sign = ['-']
  match rest with
  | 'i' :: 'n' :: 'f' :: rest => some (.float (.infinity negative), rest)
  | 'n' :: 'a' :: 'n' :: rest => some (.float (.nan negative), rest)
  | _ => none

/-- Whether a date or a time starts here. -/
def startsDatetime (cs : List Char) : Bool :=
  startsTime cs || ((scanDigits? 4 cs).bind fun p => scanMark? '-' p.2).isSome

/-- A value that holds no others. -/
def scanScalar? (cs : List Char) : Option (Value × List Char) :=
  match cs with
  | '"' :: _ => (scanString? cs).map fun q => (.text q.1, q.2)
  | '\'' :: _ => (scanString? cs).map fun q => (.text q.1, q.2)
  | 't' :: 'r' :: 'u' :: 'e' :: rest => some (.boolean true, rest)
  | 'f' :: 'a' :: 'l' :: 's' :: 'e' :: rest => some (.boolean false, rest)
  | '0' :: 'x' :: rest => scanBased? 16 (fun c => (Text.hexValue? c).isSome) rest
  | '0' :: 'o' :: rest => scanBased? 8 (fun c => '0' ≤ c && c ≤ '7') rest
  | '0' :: 'b' :: rest => scanBased? 2 (fun c => c = '0' || c = '1') rest
  | _ =>
    if startsDatetime cs then (Datetime.scan? cs).map fun q => (.datetime q.1, q.2)
    else (scanSpecial? cs).or (scanDecimal? cs)

end KernelGate.Toml
