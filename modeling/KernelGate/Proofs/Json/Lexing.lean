import KernelGate.Json
import KernelGate.Json.Lexeme
import Mathlib.Algebra.Group.Nat.Defs
import Mathlib.Data.List.Basic

/-!
# Lexing what was written

What is written of a JSON value falls into lexemes: a string is one lexeme whatever is escaped in
it, an integer is one, and what stands between lexemes does not count.

Main statements: `Lexes.lexemes_eq` (a text that falls into lexemes one after another is lexed so),
`lexes_text`, `lexes_integer`, `lexes_number`, `lexes_mark` (a string, a number and a mark are one
lexeme).
-/

namespace KernelGate.Json

/-! ## Texts that fall into lexemes

The lexer has fuel, which is enough as long as each lexeme takes up at least a character. `Lexes`
says the same without fuel, so that texts can be put together. -/

/-- A text falls into lexemes, one scan after another. -/
inductive Lexes : Glyphs → List Lexeme → Prop
  | nil : Lexes [] []
  | gap {c : Char} {cs : Glyphs} {ls : List Lexeme} : isGap c = true → Lexes cs ls →
      Lexes (some c :: cs) ls
  | lexeme {c : Char} {cs rest : Glyphs} {l : Lexeme} {ls : List Lexeme} : isGap c = false →
      scanLexeme? (some c :: cs) = some (l, rest) → rest.length ≤ cs.length → Lexes rest ls →
      Lexes (some c :: cs) (l :: ls)

/-- The fuel of the lexer is enough wherever it exceeds the length of the text. -/
theorem Lexes.lexemesFrom_eq {cs : Glyphs} {ls : List Lexeme} (h : Lexes cs ls) {fuel : Nat}
    (hfuel : cs.length < fuel) : lexemesFrom fuel cs = ls := by
  induction h generalizing fuel with
  | nil =>
    cases fuel with
    | zero => simp at hfuel
    | succ fuel => rfl
  | gap hc _ ih =>
    cases fuel with
    | zero => simp at hfuel
    | succ fuel =>
      rw [lexemesFrom]
      simpa [hc] using ih (by simpa using hfuel)
  | @lexeme _ _ rest _ ls hc hscan hlen _ ih =>
    cases fuel with
    | zero => simp at hfuel
    | succ fuel =>
      have hrest : lexemesFrom fuel rest = ls :=
        ih (by simp only [List.length_cons] at hfuel; omega)
      rw [lexemesFrom]
      simp [hc, hscan, hrest]

/-- The fuel that the lexer starts with is enough. -/
theorem Lexes.lexemes_eq {cs : Glyphs} {ls : List Lexeme} (h : Lexes cs ls) : lexemes cs = ls :=
  h.lexemesFrom_eq (Nat.lt_succ_self _)

/-- Gaps do not count. -/
theorem Lexes.gaps {gaps : List Char} (hgaps : ∀ c ∈ gaps, isGap c = true) {rest : Glyphs}
    {ls : List Lexeme} (h : Lexes rest ls) : Lexes (gaps.map some ++ rest) ls := by
  induction gaps with
  | nil => exact h
  | cons c gaps ih =>
    obtain ⟨hc, hgaps⟩ := List.forall_mem_cons.mp hgaps
    exact .gap hc (ih hgaps)

/-! ## Strings

A string is written with escapes, some of which are longer than what they stand for. The scanner
goes through them character by character and finds the string that was written. -/

/-- The code of a control character has four digits, which stand for it. -/
theorem hex?_hexDigits {n : Nat} (h : n < 0x20) : ∃ a b c d,
    Text.hexDigits 4 n = [a, b, c, d] ∧ Text.hex? (Text.hexDigits 4 n) = some n := by
  have hall : ∀ n : Fin 0x20, (Text.hexDigits 4 n).length = 4 ∧
      Text.hex? (Text.hexDigits 4 n) = some n.val := by
    decide +kernel
  obtain ⟨hlen, hvalue⟩ := hall ⟨n, h⟩
  obtain ⟨a, b, c, d, hdigits⟩ := List.length_eq_four.mp hlen
  exact ⟨a, b, c, d, hdigits, hvalue⟩

/-- A control character comes back from its code. -/
theorem scanUnit?_control {c : Char} (h : c.toNat < 0x20) (rest : Glyphs) :
    scanUnit? ((Text.hexDigits 4 c.toNat).map some ++ rest) = some (some c, rest) := by
  obtain ⟨a, b, d, e, hdigits, hvalue⟩ := hex?_hexDigits h
  rw [hdigits] at hvalue
  have hhigh : ¬ (0xD800 ≤ c.toNat ∧ c.toNat ≤ 0xDBFF) := by omega
  have hlow : ¬ (0xDC00 ≤ c.toNat ∧ c.toNat ≤ 0xDFFF) := by omega
  simp [hdigits, scanUnit?, scanHexFour?, hvalue, hhigh, hlow]

/-- A character comes back from what is written for it. -/
theorem scanText_escapedChar (fuel : Nat) (c : Char) (rest : Glyphs) :
    scanText (fuel + 1) ((escapedChar c).map some ++ rest) =
      (scanText fuel rest).map fun q => (some c :: q.1, q.2) := by
  unfold escapedChar
  split
  case h_8 hquote hslash _ _ _ _ _ =>
    split
    · next hcontrol =>
      simp [scanText, scanEscape?, scanUnit?_control hcontrol]
    · next hplain =>
      have hquote : c ≠ '"' := hquote
      have hslash : c ≠ '\\' := hslash
      simp [scanText, hquote, hslash, hplain]
  all_goals simp [scanText, scanEscape?]

theorem length_le_flatMap_escapedChar (cs : List Char) :
    cs.length ≤ (cs.flatMap escapedChar).length := by
  induction cs with
  | nil => simp
  | cons c cs ih =>
    have hc : 0 < (escapedChar c).length := by
      unfold escapedChar
      split
      case h_8 => split <;> simp
      all_goals simp
    simp only [List.length_cons, List.flatMap_cons, List.length_append]
    omega

/-- A string is scanned up to its closing quote, whatever is escaped in it. -/
theorem scanText_append {cs : List Char} {rest : Glyphs} {fuel : Nat} (h : cs.length < fuel) :
    scanText fuel ((cs.flatMap escapedChar).map some ++ some '"' :: rest) =
      some (cs.map some, rest) := by
  induction cs generalizing fuel with
  | nil =>
    cases fuel with
    | zero => simp at h
    | succ fuel => rfl
  | cons c cs ih =>
    cases fuel with
    | zero => simp at h
    | succ fuel =>
      rw [List.flatMap_cons, List.map_append, List.append_assoc, scanText_escapedChar,
        ih (by simpa using h)]
      rfl

theorem textOf?_map_some (s : String) : textOf? (s.toList.map some) = some s := by
  have h : ∀ cs : List Char, (cs.map some).mapM id = some cs := by
    intro cs
    induction cs with
    | nil => rfl
    | cons c cs ih => simp [List.mapM_cons, ih]
  simp [textOf?, h]

/-- A string is one lexeme. -/
theorem lexes_text (s : String) {rest : Glyphs} {ls : List Lexeme} (h : Lexes rest ls) :
    Lexes ((textChars s).map some ++ rest) (.text (some s) :: ls) := by
  have hshape : (textChars s).map some ++ rest =
      some '"' :: ((s.toList.flatMap escapedChar).map some ++ some '"' :: rest) := by
    simp [textChars]
  have hlen := length_le_flatMap_escapedChar s.toList
  have hscan : scanLexeme? (some '"' ::
      ((s.toList.flatMap escapedChar).map some ++ some '"' :: rest)) =
        some (.text (some s), rest) := by
    rw [scanLexeme?, scanText_append]
    · simp [textOf?_map_some]
    · simp only [List.length_append, List.length_map, List.length_cons]
      omega
  rw [hshape]
  refine .lexeme rfl hscan ?_ h
  simp
  omega

/-! ## Numbers

A number has no mark at its end, so that it is one lexeme only if what stands behind it cannot
belong to it. Whole numbers of 64 bits are found as such, and are not taken for fractions. -/

/-- Nothing in front that a number could go on with. -/
def Stops (rest : Glyphs) : Prop :=
  ∀ c, rest.head? = some (some c) → c.isDigit = false ∧ c ≠ '.' ∧ c ≠ 'e' ∧ c ≠ 'E'

theorem stops_nil : Stops [] := fun _ h => nomatch h

theorem stops_cons {c : Char} (h : c.isDigit = false ∧ c ≠ '.' ∧ c ≠ 'e' ∧ c ≠ 'E')
    (rest : Glyphs) : Stops (some c :: rest) := by
  intro d hd
  cases hd
  exact h

namespace Stops

variable {rest : Glyphs}

theorem takeWhile_eq (h : Stops rest) : rest.takeWhile isDigit = [] := by
  match rest, h with
  | [], _ => rfl
  | none :: _, _ => rfl
  | some c :: _, h =>
    have hc : isDigit (some c) = false := (h c rfl).1
    simp [hc]

theorem dropWhile_eq (h : Stops rest) : rest.dropWhile isDigit = rest := by
  match rest, h with
  | [], _ => rfl
  | none :: _, _ => rfl
  | some c :: _, h =>
    have hc : isDigit (some c) = false := (h c rfl).1
    simp [hc]

theorem scanPart?_eq (h : Stops rest) : scanPart? rest = some ([], rest) := by
  unfold scanPart?
  split
  · exact absurd rfl (h '.' rfl).2.1
  · rfl

theorem scanPower?_eq (h : Stops rest) : scanPower? rest = some (none, rest) := by
  unfold scanPower?
  split
  · exact absurd rfl (h 'e' rfl).2.2.1
  · exact absurd rfl (h 'E' rfl).2.2.2
  · rfl

end Stops

theorem isDigit_of_mem {ds : List Char} (h : ∀ c ∈ ds, c.isDigit = true) :
    ∀ g ∈ ds.map some, isDigit g = true := by
  intro g hg
  obtain ⟨c, hc, rfl⟩ := List.mem_map.mp hg
  exact h c hc

/-- The digits of a number are all that stand in front. -/
theorem digitsOf_append {ds : List Char} (h : ∀ c ∈ ds, c.isDigit = true) {rest : Glyphs}
    (hrest : Stops rest) : digitsOf (ds.map some ++ rest) = ds := by
  rw [digitsOf, List.takeWhile_append_of_pos (isDigit_of_mem h), hrest.takeWhile_eq]
  simp

theorem dropWhile_append {ds : List Char} (h : ∀ c ∈ ds, c.isDigit = true) {rest : Glyphs}
    (hrest : Stops rest) : (ds.map some ++ rest).dropWhile isDigit = rest := by
  rw [List.dropWhile_append_of_pos (isDigit_of_mem h), hrest.dropWhile_eq]

/-- A number does not begin with a zero, unless it is zero. -/
theorem head?_digits {n : Nat} (h : n ≠ 0) : (Text.digits n).head? ≠ some '0' := by
  induction n using Nat.strongRecOn with
  | ind n ih =>
    by_cases hn : n < 10
    · rw [Text.digits_of_lt hn]
      have hall : ∀ n : Fin 10, n ≠ 0 → Nat.digitChar n ≠ '0' := by decide
      simpa using hall ⟨n, hn⟩ (by simpa [Fin.ext_iff] using h)
    · have hfront := ih (n / 10) (by omega) (by omega)
      rw [Text.digits_step (Nat.le_of_not_lt hn)]
      cases hd : Text.digits (n / 10) with
      | nil => exact absurd hd (Text.digits_ne_nil _)
      | cons c ds => simpa [hd] using hfront

/-- A natural number of 64 bits is far below the floating-point infinities. -/
theorem ofFraction_ne_infinity {n : Nat} (h : n < 2 ^ 64) (negative sign : Bool) :
    Binary64.ofFraction negative n 1 ≠ .infinity sign := by
  unfold Binary64.ofFraction
  split
  · simp
  · next hn =>
    have hlog : Nat.log2 n < 64 := (Nat.log2_lt hn).mpr h
    have hone : Nat.log2 1 = 0 := rfl
    simp only [hone]
    intro hinf
    have hguess : max ((Nat.log2 n : Int) - (0 : Nat) - 53) (-1074) ≤ 10 := by omega
    generalize max ((Nat.log2 n : Int) - (0 : Nat) - 53) (-1074) = guess at hinf hguess
    -- whichever way the mantissa is rounded, the exponent grows by two at most
    split at hinf <;> split at hinf <;> split at hinf
    all_goals first | (dsimp only at *; omega) | cases hinf

/-- A number of 64 bits is not too great for a floating-point number. -/
theorem ofDecimal_ne_infinity {n : Nat} (h : n < 2 ^ 64) (sign : Bool) :
    Binary64.ofDecimal false n 0 ≠ .infinity sign := by
  have hlen : (Text.digits n).length ≤ 20 :=
    (Nat.length_toDigits_le_iff (by decide) (by decide)).mpr (by omega)
  have hone : n * Binary64.tenTo 0 = n := Nat.mul_one n
  unfold Binary64.ofDecimal
  split
  · simp
  · simp only [Int.add_zero]
    split
    · omega
    · split
      · simp
      · show Binary64.ofFraction false (n * Binary64.tenTo 0) 1 ≠ _
        rw [hone]
        exact ofFraction_ne_infinity h false sign

/-- The digits of a natural number are those of that number. -/
theorem numberForm_digits {n : Nat} (h : n < 2 ^ 64) :
    numberForm false (Text.digits n) [] none = .natural n := by
  have hdigits : (Text.digits? (Text.digits n ++ [])).getD 0 = n := by
    rw [List.append_nil, Text.digits?_digits]
    rfl
  have hpower : (none : Option Int).getD 0 - (([] : List Char).length : Nat) = 0 := rfl
  simp only [numberForm, hdigits, hpower]
  split
  · next sign hinf => exact absurd hinf (ofDecimal_ne_infinity h sign)
  · rfl

/-- The text of an integer. -/
def integerChars (negative : Bool) (n : Nat) : List Char :=
  if negative then '-' :: Text.digits n else Text.digits n

/-- A whole number is scanned as one, up to what stands behind it. -/
theorem scanNumber?_integer (negative : Bool) (n : Nat) {rest : Glyphs} (hrest : Stops rest) :
    scanNumber? ((integerChars negative n).map some ++ rest) =
      some (numberForm negative (Text.digits n) [] none, rest) := by
  have hall := Text.isDigit_of_mem_digits n
  have hlead : ¬ ((Text.digits n).head? = some '0' ∧ 1 < (Text.digits n).length) := by
    rintro ⟨hhead, hlen⟩
    by_cases hn : n = 0
    · rw [hn, Text.digits_of_lt (by decide)] at hlen
      simp at hlen
    · exact head?_digits hn hhead
  -- Digits do not begin with a dash, so that only the sign itself is read as one.
  have hsign : ∀ rest', (Text.digits n).map some ++ rest ≠ some '-' :: rest' := by
    intro rest' he
    cases hd : Text.digits n with
    | nil => exact Text.digits_ne_nil n hd
    | cons c ds =>
      rw [hd] at he hall
      simp only [List.map_cons, List.cons_append, List.cons.injEq, Option.some.injEq] at he
      exact absurd (hall c List.mem_cons_self) (by rw [he.1]; decide)
  unfold scanNumber?
  split
  next negative' cs hcs =>
  have hcs : negative' = negative ∧ cs = (Text.digits n).map some ++ rest := by
    cases negative with
    | true =>
      cases hcs
      exact ⟨rfl, rfl⟩
    | false =>
      split at hcs
      · next rest' he => exact absurd he (hsign rest')
      · cases hcs
        exact ⟨rfl, rfl⟩
  obtain ⟨rfl, rfl⟩ := hcs
  -- There are digits, and a zero comes first only if it is alone.
  have hwhole : ¬ ((Text.digits n).isEmpty ||
      ((Text.digits n).head? = some '0' && 1 < (Text.digits n).length)) = true := by
    simpa [Text.digits_ne_nil] using hlead
  simp only [digitsOf_append hall hrest, dropWhile_append hall hrest, gt_iff_lt, hwhole,
    hrest.scanPart?_eq, hrest.scanPower?_eq, Option.bind_eq_bind, Option.bind_some]
  rfl

theorem ne_of_isDigit {c d : Char} (hc : c.isDigit = true) (hd : d.isDigit = false) : c ≠ d := by
  rintro rfl
  rw [hc] at hd
  exact Bool.noConfusion hd

/-- Where a digit stands, a number begins. -/
theorem scanLexeme?_of_isDigit {c : Char} (h : c.isDigit = true) (cs : Glyphs) :
    scanLexeme? (some c :: cs) =
      (scanNumber? (some c :: cs)).map fun q => (.number q.1, q.2) := by
  unfold scanLexeme?
  split
  case h_11 => rfl
  all_goals
    next he =>
    simp only [List.cons.injEq, Option.some.injEq] at he
    exact absurd he.1 (ne_of_isDigit h rfl)

/-- An integer is one lexeme, however large it is. -/
theorem lexes_integer (negative : Bool) (n : Nat) {rest : Glyphs} (hrest : Stops rest)
    {ls : List Lexeme} (h : Lexes rest ls) :
    Lexes ((integerChars negative n).map some ++ rest)
      (.number (numberForm negative (Text.digits n) [] none) :: ls) := by
  have hscan := scanNumber?_integer negative n hrest
  cases negative with
  | true =>
    have hlexeme : scanLexeme? (some '-' :: ((Text.digits n).map some ++ rest)) =
        some (.number (numberForm true (Text.digits n) [] none), rest) :=
      congrArg (Option.map _) hscan
    exact .lexeme rfl hlexeme (by simp) h
  | false =>
    have hall := Text.isDigit_of_mem_digits n
    simp only [integerChars, Bool.false_eq_true, if_false] at hscan ⊢
    cases hd : Text.digits n with
    | nil => exact absurd hd (Text.digits_ne_nil n)
    | cons c ds =>
      rw [hd] at hscan hall
      have hc : c.isDigit = true := hall c List.mem_cons_self
      -- A digit is no blank that would be passed over.
      have hgap : isGap c = false := by
        simp [isGap, ne_of_isDigit (d := ' ') hc rfl, ne_of_isDigit (d := '\n') hc rfl,
          ne_of_isDigit (d := '\t') hc rfl, ne_of_isDigit (d := '\r') hc rfl]
      have hlexeme : scanLexeme? (some c :: (ds.map some ++ rest)) =
          some (.number (numberForm false (c :: ds) [] none), rest) := by
        rw [scanLexeme?_of_isDigit hc]
        exact congrArg (Option.map _) hscan
      exact .lexeme hgap hlexeme (by simp) h

/-- A natural number of 64 bits is one lexeme, which tells the number. -/
theorem lexes_number {n : Nat} (hn : n < 2 ^ 64) {rest : Glyphs} (hrest : Stops rest)
    {ls : List Lexeme} (h : Lexes rest ls) :
    Lexes ((Text.digits n).map some ++ rest) (.number (.natural n) :: ls) := by
  rw [← numberForm_digits hn]
  exact lexes_integer false n hrest h

/-! ## Marks and line ends

Between lexemes there may be blanks and line ends, which count for nothing but may end a number. -/

theorem lexes_newLine (level : Nat) {rest : Glyphs} {ls : List Lexeme} (h : Lexes rest ls) :
    Lexes ((newLine level).map some ++ rest) ls := by
  refine h.gaps fun c hc => ?_
  rcases List.mem_cons.mp hc with rfl | hc
  · rfl
  · rw [List.eq_of_mem_replicate hc]
    rfl

theorem stops_newLine (level : Nat) (rest : Glyphs) : Stops ((newLine level).map some ++ rest) :=
  stops_cons (by decide) _

/-- A mark is one lexeme. -/
theorem lexes_mark {c : Char} {l : Lexeme} (hgap : isGap c = false)
    (hscan : ∀ rest, scanLexeme? (some c :: rest) = some (l, rest)) {rest : Glyphs}
    {ls : List Lexeme} (h : Lexes rest ls) : Lexes (some c :: rest) (l :: ls) :=
  .lexeme hgap (hscan rest) (Nat.le_refl _) h

end KernelGate.Json
