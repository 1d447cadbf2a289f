import KernelGate.Binary64

/-!
# Lexemes of JSON

The lexemes of a JSON text. The text is a list of characters in which `none` stands for a byte that
is part of no character: inside a string this spoils the string, elsewhere it is no JSON. Lexing
never fails; where the text stops being JSON the last lexeme is `stray`.
-/

namespace KernelGate.Json

/-- What a number comes to: readers want natural numbers only. -/
inductive NumberForm where
  | natural (n : Nat)
  /-- Negative, or with a point or a power of ten. -/
  | other
  /-- Beyond all floating-point numbers. -/
  | tooLarge
  deriving DecidableEq, Repr, Inhabited

/-- A lexeme. -/
inductive Lexeme where
  | beginArray
  | endArray
  | beginObject
  | endObject
  | colon
  | comma
  | null
  | boolean (b : Bool)
  | number (n : NumberForm)
  /-- A string; none if it holds half a character or broken bytes. -/
  | text (s? : Option String)
  /-- The text stops being JSON here. -/
  | stray
  deriving DecidableEq, Repr, Inhabited

/-- Characters, with `none` for a byte that is part of none. -/
abbrev Glyphs := List (Option Char)

/-- Characters that may stand between lexemes. -/
def isGap (c : Char) : Bool := c = ' ' || c = '\n' || c = '\t' || c = '\r'

/-! ## Strings -/

/-- Four hexadecimal digits. -/
def scanHexFour? : Glyphs → Option (Nat × Glyphs)
  | some a :: some b :: some c :: some d :: rest => (Text.hex? [a, b, c, d]).map fun n => (n, rest)
  | _ => none

/-- The character of an escape by code unit: a unit for a character by itself, or two units that
make one together; a half without the other is no character. -/
def scanUnit? (cs : Glyphs) : Option (Option Char × Glyphs) := do
  let (high, rest) ← scanHexFour? cs
  if 0xD800 ≤ high ∧ high ≤ 0xDBFF then
    match rest with
    | some '\\' :: some 'u' :: behind =>
      let (low, behind) ← scanHexFour? behind
      if 0xDC00 ≤ low ∧ low ≤ 0xDFFF then
        some (some (Char.ofNat (0x10000 + (high - 0xD800) * 0x400 + (low - 0xDC00))), behind)
      else some (none, rest)
    | _ => some (none, rest)
  else if 0xDC00 ≤ high ∧ high ≤ 0xDFFF then some (none, rest)
  else some (some (Char.ofNat high), rest)

/-- The character of an escape, behind its backslash. -/
def scanEscape? : Glyphs → Option (Option Char × Glyphs)
  | some '"' :: rest => some (some '"', rest)
  | some '\\' :: rest => some (some '\\', rest)
  | some '/' :: rest => some (some '/', rest)
  | some 'b' :: rest => some (some '\x08', rest)
  | some 'f' :: rest => some (some '\x0c', rest)
  | some 'n' :: rest => some (some '\n', rest)
  | some 'r' :: rest => some (some '\r', rest)
  | some 't' :: rest => some (some '\t', rest)
  | some 'u' :: rest => scanUnit? rest
  | _ => none

/-- The inside of a string, up to its closing mark. -/
def scanText : (fuel : Nat) → Glyphs → Option (Glyphs × Glyphs)
  | 0, _ => none
  | fuel + 1, cs =>
    match cs with
    | [] => none
    | none :: rest => (scanText fuel rest).map fun q => (none :: q.1, q.2)
    | some c :: rest =>
      if c = '"' then some ([], rest)
      else if c = '\\' then
        (scanEscape? rest).bind fun p =>
          (scanText fuel p.2).map fun q => (p.1 :: q.1, q.2)
      else if c.toNat < 0x20 then none
      else (scanText fuel rest).map fun q => (some c :: q.1, q.2)

/-- The text of characters that are all well formed. -/
def textOf? (cs : Glyphs) : Option String := (cs.mapM id).map String.ofList

/-! ## Numbers -/

/-- Whether a glyph is a digit. -/
def isDigit (g : Option Char) : Bool :=
  match g with
  | some c => c.isDigit
  | none => false

/-- The digits in front. -/
def digitsOf (cs : Glyphs) : List Char := (cs.takeWhile isDigit).filterMap id

/-- The part behind the point, if there is a point. -/
def scanPart? (cs : Glyphs) : Option (List Char × Glyphs) :=
  match cs with
  | some '.' :: rest =>
    let ds := digitsOf rest
    if ds.isEmpty then none else some (ds, rest.dropWhile isDigit)
  | _ => some ([], cs)

/-- The power of ten, if there is one. -/
def scanPower? (cs : Glyphs) : Option (Option Int × Glyphs) :=
  let digits := fun (negative : Bool) (rest : Glyphs) =>
    let ds := digitsOf rest
    (Text.digits? ds).map fun n =>
      (some (if negative then -Int.ofNat n else Int.ofNat n), rest.dropWhile isDigit)
  let signed := fun (rest : Glyphs) =>
    match rest with
    | some '-' :: rest => digits true rest
    | some '+' :: rest => digits false rest
    | rest => digits false rest
  match cs with
  | some 'e' :: rest => signed rest
  | some 'E' :: rest => signed rest
  | _ => some (none, cs)

/-- What a number comes to. -/
def numberForm (negative : Bool) (whole part : List Char) (power : Option Int) : NumberForm :=
  let digits := (Text.digits? (whole ++ part)).getD 0
  match Binary64.ofDecimal negative digits (power.getD 0 - part.length) with
  | .infinity _ => .tooLarge
  | _ => if negative || !part.isEmpty || power.isSome then .other else .natural digits

/-- A number. -/
def scanNumber? (cs : Glyphs) : Option (NumberForm × Glyphs) := do
  let (negative, cs) := match cs with
    | some '-' :: rest => (true, rest)
    | cs => (false, cs)
  let whole := digitsOf cs
  if whole.isEmpty || (whole.head? = some '0' && whole.length > 1) then none
  else do
    let (part, rest) ← scanPart? (cs.dropWhile isDigit)
    let (power, rest) ← scanPower? rest
    some (numberForm negative whole part power, rest)

/-! ## Lexing -/

/-- The first lexeme of a text that does not start with a gap, and what follows it. -/
def scanLexeme? (cs : Glyphs) : Option (Lexeme × Glyphs) :=
  match cs with
  | some '[' :: rest => some (.beginArray, rest)
  | some ']' :: rest => some (.endArray, rest)
  | some '\x7b' :: rest => some (.beginObject, rest)
  | some '\x7d' :: rest => some (.endObject, rest)
  | some ':' :: rest => some (.colon, rest)
  | some ',' :: rest => some (.comma, rest)
  | some '"' :: rest => (scanText (rest.length + 1) rest).map fun q => (.text (textOf? q.1), q.2)
  | some 'n' :: some 'u' :: some 'l' :: some 'l' :: rest => some (.null, rest)
  | some 't' :: some 'r' :: some 'u' :: some 'e' :: rest => some (.boolean true, rest)
  | some 'f' :: some 'a' :: some 'l' :: some 's' :: some 'e' :: rest => some (.boolean false, rest)
  | cs => (scanNumber? cs).map fun q => (.number q.1, q.2)

/-- The lexemes of a text. -/
def lexemesFrom : (fuel : Nat) → Glyphs → List Lexeme
  | 0, _ => [.stray]
  | fuel + 1, cs =>
    match cs with
    | [] => []
    | g :: rest =>
      if (g.map isGap).getD false then lexemesFrom fuel rest
      else
        match scanLexeme? (g :: rest) with
        | some (l, rest) => l :: lexemesFrom fuel rest
        | none => [.stray]

/-- The lexemes of a text. -/
def lexemes (cs : Glyphs) : List Lexeme := lexemesFrom (cs.length + 1) cs

end KernelGate.Json
