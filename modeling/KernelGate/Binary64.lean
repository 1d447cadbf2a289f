import KernelGate.Text.Decimal

/-!
# Floating-point numbers of 64 bits

A finite number is `mantissa * 2 ^ exponent`. Decimal text is rounded to the nearest number, a tie
going to the even mantissa, and a number is written with the fewest decimal digits that read back
as the same number, always in positional form. All arithmetic is exact.
-/

namespace KernelGate

/-- A floating-point number of 64 bits. -/
inductive Binary64 where
  | nan (negative : Bool)
  | infinity (negative : Bool)
  | finite (negative : Bool) (mantissa : Nat) (exponent : Int)
  deriving DecidableEq, Repr, Inhabited

namespace Binary64

/-- A power of two. -/
def twoTo (n : Nat) : Nat := Nat.pow 2 n

/-- A power of ten. -/
def tenTo (n : Nat) : Nat := Nat.pow 10 n

/-- A quotient rounded to the nearest natural number, a tie to the even one. -/
def roundDiv (num den : Nat) : Nat :=
  let q := num / den
  let r := num % den
  if 2 * r > den ∨ (2 * r = den ∧ q % 2 = 1) then q + 1 else q

/-- `num / den` as `num * 2 ^ -e / den`, without fractions. -/
def scaleTwo (num den : Nat) (e : Int) : Nat × Nat :=
  match e with
  | .ofNat n => (num, den * twoTo n)
  | .negSucc n => (num * twoTo (n + 1), den)

/-- The nearest number to a positive fraction: the mantissa has 53 bits, or the exponent is the
least one. -/
def ofFraction (negative : Bool) (num den : Nat) : Binary64 :=
  if num = 0 then .finite negative 0 (-1074)
  else
    -- The quotient lies between `2 ^ (size - 1)` and `2 ^ (size + 1)`.
    let size : Int := (Nat.log2 num : Int) - Nat.log2 den
    let guess := max (size - 53) (-1074)
    let (n, d) := scaleTwo num den guess
    let guess := if n / d < twoTo 53 then guess else guess + 1
    let (n, d) := scaleTwo num den guess
    let m := roundDiv n d
    -- Rounding up may give a mantissa of one bit more.
    let (m, e) := if m = twoTo 53 then (twoTo 52, guess + 1) else (m, guess)
    if e > 971 then .infinity negative else .finite negative m e

/-- The nearest number to `digits * 10 ^ exponent`. -/
def ofDecimal (negative : Bool) (digits : Nat) (exponent : Int) : Binary64 :=
  if digits = 0 then .finite negative 0 (-1074)
  else
    let places : Int := (Text.digits digits).length + exponent
    if places > 400 then .infinity negative
    else if places < -400 then .finite negative 0 (-1074)
    else match exponent with
      | .ofNat n => ofFraction negative (digits * tenTo n) 1
      | .negSucc n => ofFraction negative digits (tenTo (n + 1))

/-! ## Reading -/

/-- The sign of a number and what follows it. -/
def sign : List Char → Bool × List Char
  | '-' :: cs => (true, cs)
  | '+' :: cs => (false, cs)
  | cs => (false, cs)

/-- An exponent's value, if the text is one. -/
def exponent? (cs : List Char) : Option Int :=
  let (negative, body) := sign cs
  (Text.digits? body).map fun n => if negative then -Int.ofNat n else Int.ofNat n

/-- A number in decimal or scientific form, or the name of an infinity or of no number. -/
def read? (cs : List Char) : Option Binary64 :=
  let (negative, body) := sign cs
  let name := String.ofList (body.map Char.toLower)
  if name = "nan" then some (.nan negative)
  else if name = "inf" ∨ name = "infinity" then some (.infinity negative)
  else
    let isMark := fun c : Char => c = 'e' || c = 'E'
    let number := body.takeWhile fun c => !isMark c
    let scale := (body.dropWhile fun c => !isMark c).drop 1
    let whole := number.takeWhile (· ≠ '.')
    let part := (number.dropWhile (· ≠ '.')).drop 1
    if whole.isEmpty && part.isEmpty then none
    else
      match Text.digits? (whole ++ part), (if body.any isMark then exponent? scale else some 0) with
      | some n, some e => some (ofDecimal negative n (e - part.length))
      | _, _ => none

/-! ## Writing -/

/-- The power of ten that has one digit more before the point than `num / den`. -/
def magnitude (num den : Nat) : Int :=
  if den ≤ num then (Text.digits (num / den)).length
  else
    let rec find (n k : Nat) : (fuel : Nat) → Int
      | 0 => -(k : Int)
      | fuel + 1 => if den ≤ n * 10 then -(k : Int) else find (n * 10) (k + 1) fuel
    find num 0 400

/-- A multiple of `10 ^ k` by a fraction, without fractions. -/
def scaleTen (num den : Nat) (k : Int) : Nat × Nat :=
  match k with
  | .ofNat n => (num, den * tenTo n)
  | .negSucc n => (num * tenTo (n + 1), den)

/-- The digits of the decimal number with fewest digits among those that read back as
`mantissa * 2 ^ exponent`, and its power of ten; the nearest one if there are two. -/
def shortest (mantissa : Nat) (exponent : Int) : Nat × Int :=
  -- The ends of the interval lie half a unit off, below a power of two a quarter.
  let (num, den) := scaleTwo (4 * mantissa) 4 (-exponent)
  let (high, _) := scaleTwo (4 * mantissa + 2) 4 (-exponent)
  let below := if mantissa = twoTo 52 ∧ exponent > -1074 then 1 else 2
  let (low, _) := scaleTwo (4 * mantissa - below) 4 (-exponent)
  let even := mantissa % 2 = 0
  let top := magnitude num den
  let rec search (count : Nat) : (fuel : Nat) → Nat × Int
    | 0 => (0, 0)
    | fuel + 1 =>
      let k := top - count
      let (n, d) := scaleTen num den k
      let (h, _) := scaleTen high den k
      let (l, _) := scaleTen low den k
      let fits := fun c : Nat =>
        if even then l ≤ c * d ∧ c * d ≤ h else l < c * d ∧ c * d < h
      let down := n / d
      let up := down + 1
      let downFits := decide (fits down) && down != 0
      let upFits := decide (fits up)
      if downFits && upFits then (if 2 * (n % d) < d then down else up, k)
      else if downFits then (down, k)
      else if upFits then (up, k)
      else search (count + 1) fuel
  search 1 20

/-- Decimal digits in positional form; a whole number has one zero behind the point. -/
def positional (digits : Nat) (power : Int) : List Char :=
  match power with
  | .ofNat n => Text.digits (digits * tenTo n) ++ ['.', '0']
  | .negSucc n =>
    let ds := Text.digits digits
    let ds := List.replicate (n + 2 - ds.length) '0' ++ ds
    ds.take (ds.length - (n + 1)) ++ '.' :: ds.drop (ds.length - (n + 1))

/-- The digits of a number that end in no zero, and their power of ten. -/
def normal (digits : Nat) (power : Int) : (fuel : Nat) → Nat × Int
  | 0 => (digits, power)
  | fuel + 1 =>
    if digits ≠ 0 ∧ digits % 10 = 0 then normal (digits / 10) (power + 1) fuel else (digits, power)

/-- The text of a number: positional, with a point. What is no number is written without a sign. -/
def text : Binary64 → String
  | .nan _ => "nan"
  | .infinity negative => if negative then "-inf" else "inf"
  | .finite negative mantissa exponent =>
    let body :=
      if mantissa = 0 then ['0', '.', '0']
      else
        let (ds, k) := shortest mantissa exponent
        let (ds, k) := normal ds k 20
        positional ds k
    String.ofList (if negative then '-' :: body else body)

end Binary64

end KernelGate
