/-!
# Integers in decimal

Reading and writing decimal integers. A literal has an optional sign and one or more ASCII digits,
nothing else; leading zeros are allowed.

Main statements: `natural?_digits` and `integer?_signedDigits` (reading gives back what was
written).
-/

namespace KernelGate.Text

/-- The value of an ASCII digit. -/
def digitValue (c : Char) : Nat := c.toNat - '0'.toNat

/-- Read the digits of `cs` behind a number that has been read so far. -/
def digitsFrom? (n : Nat) : List Char → Option Nat
  | [] => some n
  | c :: cs => if c.isDigit then digitsFrom? (10 * n + digitValue c) cs else none

/-- The number that one or more digits stand for. -/
def digits? : List Char → Option Nat
  | [] => none
  | cs => digitsFrom? 0 cs

/-- The digits of a number, without leading zeros. -/
def digits (n : Nat) : List Char := Nat.toDigits 10 n

/-- A literal without a minus sign, up to `max`. -/
def natural? (max : Nat) (cs : List Char) : Option Nat :=
  let body := match cs with
    | '+' :: rest => rest
    | _ => cs
  (digits? body).filter (· ≤ max)

/-- The least and the greatest integer of 64 bits. -/
def minInt64 : Int := -9223372036854775808
def maxInt64 : Int := 9223372036854775807

/-- A literal with an optional sign, within 64 bits. -/
def integer? (cs : List Char) : Option Int :=
  let value : Option Int := match cs with
    | '+' :: rest => (digits? rest).map Int.ofNat
    | '-' :: rest => (digits? rest).map fun n => -Int.ofNat n
    | _ => (digits? cs).map Int.ofNat
  value.filter fun i => minInt64 ≤ i && i ≤ maxInt64

/-- The characters of an integer: a minus sign below zero, then the digits. -/
def signedDigits : Int → List Char
  | .ofNat n => digits n
  | .negSucc n => '-' :: digits (n + 1)

/-- The text of an integer. -/
def decimal (i : Int) : String := String.ofList (signedDigits i)

/-- The text of a natural number. -/
def naturalText (n : Nat) : String := String.ofList (digits n)

/-! ## Reading back what was written

Digits are written from the last one to the first and read the other way round. Both go by the same
division by ten. -/

theorem digits_of_lt {n : Nat} (h : n < 10) : digits n = [Nat.digitChar n] :=
  Nat.toDigits_of_lt_base h

/-- The last digit is the remainder, and the others are the digits of the quotient. -/
theorem digits_step {n : Nat} (h : 10 ≤ n) :
    digits n = digits (n / 10) ++ [Nat.digitChar (n % 10)] := by
  have h1 : 0 < n / 10 := Nat.div_pos h (by decide)
  have h2 : n % 10 < 10 := Nat.mod_lt _ (by decide)
  have h3 := Nat.toDigits_append_toDigits (b := 10) (n := n / 10) (d := n % 10) (by decide) h1 h2
  rw [Nat.toDigits_of_lt_base h2, Nat.div_add_mod] at h3
  exact h3.symm

theorem isDigit_digitChar {d : Nat} (h : d < 10) : (Nat.digitChar d).isDigit = true := by
  rcases d with _ | _ | _ | _ | _ | _ | _ | _ | _ | _ | d <;> first | rfl | omega

theorem digitValue_digitChar {d : Nat} (h : d < 10) : digitValue (Nat.digitChar d) = d := by
  rcases d with _ | _ | _ | _ | _ | _ | _ | _ | _ | _ | d <;> first | rfl | omega

theorem isDigit_of_mem_digits (n : Nat) : ∀ c ∈ digits n, c.isDigit = true := by
  induction n using Nat.strongRecOn with
  | ind n ih =>
    by_cases h : n < 10
    · simp [digits_of_lt h, isDigit_digitChar h]
    · rw [digits_step (Nat.le_of_not_lt h)]
      intro c hc
      rcases List.mem_append.1 hc with hc | hc
      · exact ih _ (by omega) c hc
      · simp only [List.mem_singleton] at hc
        exact hc ▸ isDigit_digitChar (Nat.mod_lt _ (by decide))

theorem digits_ne_nil (n : Nat) : digits n ≠ [] := by
  by_cases h : n < 10
  · simp [digits_of_lt h]
  · simp [digits_step (Nat.le_of_not_lt h)]

/-- Digits are read one stretch after another. -/
theorem digitsFrom?_append (m : Nat) (cs ds : List Char) :
    digitsFrom? m (cs ++ ds) = (digitsFrom? m cs).bind (digitsFrom? · ds) := by
  induction cs generalizing m with
  | nil => rfl
  | cons c cs ih =>
    by_cases h : c.isDigit = true <;> simp [digitsFrom?, h, ih]

/-- By induction on the number, through its last digit. -/
theorem digitsFrom?_digits (n : Nat) : digitsFrom? 0 (digits n) = some n := by
  induction n using Nat.strongRecOn with
  | ind n ih =>
    by_cases h : n < 10
    · simp [digits_of_lt h, digitsFrom?, isDigit_digitChar h, digitValue_digitChar h]
    · have h2 : n % 10 < 10 := Nat.mod_lt _ (by decide)
      rw [digits_step (Nat.le_of_not_lt h), digitsFrom?_append, ih _ (by omega)]
      simp only [Option.bind_some, digitsFrom?, isDigit_digitChar h2, ↓reduceIte,
        digitValue_digitChar h2]
      rw [Nat.div_add_mod]

theorem digits?_digits (n : Nat) : digits? (digits n) = some n := by
  cases h : digits n with
  | nil => exact absurd h (digits_ne_nil n)
  | cons c cs => rw [digits?, ← h, digitsFrom?_digits]; simp

/-- A number that is not too great is read back. -/
theorem natural?_digits {max n : Nat} (h : n ≤ max) : natural? max (digits n) = some n := by
  have hd := isDigit_of_mem_digits n
  have hr := digits?_digits n
  unfold natural?
  split
  · next rest he => simp [he] at hd
  · simp [hr, h]

/-- So is an integer of 64 bits. -/
theorem integer?_signedDigits {i : Int} (h : minInt64 ≤ i ∧ i ≤ maxInt64) :
    integer? (signedDigits i) = some i := by
  cases i with
  | ofNat n =>
    have hd := isDigit_of_mem_digits n
    have hr := digits?_digits n
    unfold signedDigits integer?
    split
    · next rest he => simp [he] at hd
    · next rest he => simp [he] at hd
    · simpa [hr] using h
  | negSucc n =>
    simp only [signedDigits, integer?, digits?_digits, Option.map_some]
    have h1 : -Int.ofNat (n + 1) = Int.negSucc n := rfl
    rw [h1, Option.filter_some, if_pos (by simpa using h)]

/-! ## Hexadecimal -/

/-- The value of a hexadecimal digit of either case. -/
def hexValue? (c : Char) : Option Nat :=
  if c.isDigit then some (digitValue c)
  else if 'a' ≤ c ∧ c ≤ 'f' then some (c.toNat - 'a'.toNat + 10)
  else if 'A' ≤ c ∧ c ≤ 'F' then some (c.toNat - 'A'.toNat + 10)
  else none

/-- The number that hexadecimal digits stand for. -/
def hex? (cs : List Char) : Option Nat :=
  cs.foldlM (fun n c => (hexValue? c).map (16 * n + ·)) 0

/-- At least `width` hexadecimal digits of a number, in lower case. -/
def hexDigits (width n : Nat) : List Char :=
  let ds := Nat.toDigits 16 n
  List.replicate (width - ds.length) '0' ++ ds

end KernelGate.Text
