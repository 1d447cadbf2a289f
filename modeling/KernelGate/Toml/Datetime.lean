import KernelGate.Text.Decimal

/-!
# TOML dates and times

A date, a time, or both, and both may come with an offset from universal time. `Datetime.scan?`
reads one from the front of a text, `Datetime.text` writes it in normal form: `T` between date and
time, seconds without trailing zeros behind the point.
-/

namespace KernelGate.Toml

/-- A day of the calendar. -/
structure Date where
  year : Nat
  month : Nat
  day : Nat
  deriving DecidableEq, Repr, Inhabited

/-- A time of day. -/
structure Time where
  hour : Nat
  minute : Nat
  second : Nat
  nanosecond : Nat
  deriving DecidableEq, Repr, Inhabited

/-- The distance from universal time. -/
inductive Offset where
  | zulu
  | minutes (n : Int)
  deriving DecidableEq, Repr, Inhabited

/-- A date, a time of day, or a date with a time and maybe an offset. -/
inductive Datetime where
  | date (d : Date)
  | time (t : Time)
  | both (d : Date) (t : Time) (offset? : Option Offset)
  deriving DecidableEq, Repr, Inhabited

/-! ## Writing -/

/-- A number with zeros in front, up to a width. -/
def padded (width n : Nat) : List Char :=
  let ds := Text.digits n
  List.replicate (width - ds.length) '0' ++ ds

def Date.chars (d : Date) : List Char :=
  padded 4 d.year ++ '-' :: padded 2 d.month ++ '-' :: padded 2 d.day

def Time.chars (t : Time) : List Char :=
  let whole := padded 2 t.hour ++ ':' :: padded 2 t.minute ++ ':' :: padded 2 t.second
  if t.nanosecond = 0 then whole
  else whole ++ '.' :: ((padded 9 t.nanosecond).reverse.dropWhile (· = '0')).reverse

def Offset.chars : Offset → List Char
  | .zulu => ['Z']
  | .minutes n =>
    (if n < 0 then '-' else '+') :: padded 2 (n.natAbs / 60) ++ ':' :: padded 2 (n.natAbs % 60)

/-- The normal form of a date and time. -/
def Datetime.text : Datetime → String
  | .date d => String.ofList d.chars
  | .time t => String.ofList t.chars
  | .both d t offset? =>
    String.ofList (d.chars ++ 'T' :: t.chars ++ (offset?.map Offset.chars).getD [])

/-! ## Reading -/

/-- Exactly `count` digits in front of a text. -/
def scanDigits? (count : Nat) (cs : List Char) : Option (Nat × List Char) :=
  let ds := cs.take count
  if ds.length = count ∧ ds.all Char.isDigit then
    (Text.digits? ds).map fun n => (n, cs.drop count)
  else none

/-- A character in front of a text. -/
def scanMark? (mark : Char) : List Char → Option (List Char)
  | c :: cs => if c = mark then some cs else none
  | [] => none

/-- Days of a month. -/
def daysIn (year month : Nat) : Nat :=
  if month = 2 then
    if year % 4 = 0 ∧ (year % 100 ≠ 0 ∨ year % 400 = 0) then 29 else 28
  else if month ∈ [4, 6, 9, 11] then 30
  else 31

def Date.scan? (cs : List Char) : Option (Date × List Char) := do
  let (year, cs) ← scanDigits? 4 cs
  let cs ← scanMark? '-' cs
  let (month, cs) ← scanDigits? 2 cs
  let cs ← scanMark? '-' cs
  let (day, cs) ← scanDigits? 2 cs
  if 1 ≤ month ∧ month ≤ 12 ∧ 1 ≤ day ∧ day ≤ daysIn year month then some (⟨year, month, day⟩, cs)
  else none

/-- The part of a second behind the point, cut after nine digits. -/
def scanFraction (cs : List Char) : Option (Nat × List Char) :=
  match cs with
  | '.' :: rest =>
    let ds := rest.takeWhile Char.isDigit
    let kept := ds.take 9
    (Text.digits? (kept ++ List.replicate (9 - kept.length) '0')).bind fun n =>
      if ds.isEmpty then none else some (n, rest.dropWhile Char.isDigit)
  | _ => some (0, cs)

def Time.scan? (cs : List Char) : Option (Time × List Char) := do
  let (hour, cs) ← scanDigits? 2 cs
  let cs ← scanMark? ':' cs
  let (minute, cs) ← scanDigits? 2 cs
  let cs ← scanMark? ':' cs
  let (second, cs) ← scanDigits? 2 cs
  let (nanosecond, cs) ← scanFraction cs
  if hour ≤ 23 ∧ minute ≤ 59 ∧ second ≤ 60 then some (⟨hour, minute, second, nanosecond⟩, cs)
  else none

/-- An offset, if one follows; none also where a sign starts no offset. -/
def Offset.scan? (cs : List Char) : Option (Option Offset × List Char) :=
  let signed := fun (sign : Int) (rest : List Char) => do
    let (hour, rest) ← scanDigits? 2 rest
    let rest ← scanMark? ':' rest
    let (minute, rest) ← scanDigits? 2 rest
    if hour ≤ 23 ∧ minute ≤ 59 then
      some (some (Offset.minutes (sign * (60 * hour + minute))), rest)
    else none
  match cs with
  | 'Z' :: rest => some (some .zulu, rest)
  | 'z' :: rest => some (some .zulu, rest)
  | '+' :: rest => signed 1 rest
  | '-' :: rest => signed (-1) rest
  | _ => some (none, cs)

/-- Whether a time of day may start here: two digits and a colon. -/
def startsTime (cs : List Char) : Bool :=
  ((scanDigits? 2 cs).bind fun p => scanMark? ':' p.2).isSome

/-- A date, a time or both in front of a text. -/
def Datetime.scan? (cs : List Char) : Option (Datetime × List Char) :=
  if startsTime cs then (Time.scan? cs).map fun p => (.time p.1, p.2)
  else do
    let (d, rest) ← Date.scan? cs
    match rest with
    | c :: after =>
      if (c = 'T' ∨ c = 't' ∨ c = ' ') ∧ startsTime after then
        let (t, after) ← Time.scan? after
        let (offset?, after) ← Offset.scan? after
        some (.both d t offset?, after)
      else some (.date d, rest)
    | [] => some (.date d, rest)

/-- A text that is a date, a time or both. -/
def Datetime.read? (s : String) : Option Datetime :=
  (Datetime.scan? s.toList).bind fun p => if p.2.isEmpty then some p.1 else none

end KernelGate.Toml
