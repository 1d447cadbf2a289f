import KernelGate.Text.Blank
import KernelGate.Text.Cut
import KernelGate.Text.Decimal
import Mathlib.Data.List.TakeWhile

/-!
# Number literals

What the readers of numbers accept, said without them: a number literal is one or more ASCII digits
behind an optional sign, and it stands for the value of its digits.

Main statements: `natural?_eq_some_iff`, `integer?_eq_some_iff` (the readers accept exactly the
literals in their range), `trimChars_eq_iff` (trimming finds what stands between blanks),
`cut?_eq_some_iff` (a cut is made where the mark stands for the first time), `split_joinWith` (items
that are joined are found again).
-/

namespace KernelGate.Text

/-! ## Digits

A reader of digits keeps the number that has been read so far. `Digits` and `valueOf` say the same
of the whole text at once. -/

/-- The number that digits stand for, the first one weighing most. -/
def valueOf (ds : List Char) : Nat := ds.foldl (fun n c => 10 * n + digitValue c) 0

/-- One or more ASCII digits. -/
def Digits (ds : List Char) : Prop := ds ≠ [] ∧ ∀ c ∈ ds, c.isDigit = true

theorem digitsFrom?_eq_some_iff {n m : Nat} {ds : List Char} :
    digitsFrom? n ds = some m ↔
      (∀ c ∈ ds, c.isDigit = true) ∧ m = ds.foldl (fun n c => 10 * n + digitValue c) n := by
  induction ds generalizing n with
  | nil =>
    rw [digitsFrom?, Option.some.injEq, eq_comm]
    simp
  | cons c ds ih =>
    rw [digitsFrom?]
    by_cases hc : c.isDigit = true
    · simp [hc, ih]
    · simp [hc]

/-- What is read are digits, and the number is their value. -/
theorem digits?_eq_some_iff {ds : List Char} {n : Nat} :
    digits? ds = some n ↔ Digits ds ∧ n = valueOf ds := by
  cases ds with
  | nil => simp [digits?, Digits]
  | cons c ds => simp [digits?, digitsFrom?_eq_some_iff, Digits, valueOf]

/-- No sign is a digit. -/
theorem not_digits_of_sign {c : Char} (h : c.isDigit = false) (ds : List Char) :
    ¬ Digits (c :: ds) := by
  intro hd
  simpa [h] using hd.2 c List.mem_cons_self

/-! ## Literals

A literal is digits behind an optional sign. The readers look at the first character for the sign,
and the cases follow that. -/

/-- A literal without a minus sign, and its number. -/
inductive Natural : List Char → Nat → Prop
  | bare {ds : List Char} : Digits ds → Natural ds (valueOf ds)
  | plus {ds : List Char} : Digits ds → Natural ('+' :: ds) (valueOf ds)

/-- A literal with an optional sign, and its number. -/
inductive Literal : List Char → Int → Prop
  | natural {cs : List Char} {n : Nat} : Natural cs n → Literal cs n
  | minus {ds : List Char} : Digits ds → Literal ('-' :: ds) (-(valueOf ds : Int))

theorem natural_plus_iff {ds : List Char} {n : Nat} :
    Natural ('+' :: ds) n ↔ digits? ds = some n := by
  rw [digits?_eq_some_iff]
  constructor
  · rintro (hd | hd)
    · exact absurd hd (not_digits_of_sign rfl ds)
    · exact ⟨hd, rfl⟩
  · rintro ⟨hd, rfl⟩
    exact .plus hd

theorem natural_iff {cs : List Char} {n : Nat} (h : ∀ rest, cs ≠ '+' :: rest) :
    Natural cs n ↔ digits? cs = some n := by
  rw [digits?_eq_some_iff]
  constructor
  · rintro (hd | hd)
    · exact ⟨hd, rfl⟩
    · exact absurd rfl (h _)
  · rintro ⟨hd, rfl⟩
    exact .bare hd

/-- The reader takes exactly the literals up to its greatest number. -/
theorem natural?_eq_some_iff {max n : Nat} {cs : List Char} :
    natural? max cs = some n ↔ Natural cs n ∧ n ≤ max := by
  unfold natural?
  split
  · simp [Option.filter_eq_some_iff, natural_plus_iff]
  · next h => simp [Option.filter_eq_some_iff, natural_iff fun rest he => h rest he]

theorem literal_minus_iff {ds : List Char} {i : Int} :
    Literal ('-' :: ds) i ↔ (digits? ds).map (fun n => -Int.ofNat n) = some i := by
  rw [Option.map_eq_some_iff]
  constructor
  · rintro (hn | hd)
    · cases hn with
      | bare hd => exact absurd hd (not_digits_of_sign rfl ds)
    · exact ⟨_, digits?_eq_some_iff.mpr ⟨hd, rfl⟩, rfl⟩
  · rintro ⟨n, hn, rfl⟩
    obtain ⟨hd, rfl⟩ := digits?_eq_some_iff.mp hn
    exact .minus hd

theorem literal_iff {cs : List Char} {i : Int} (h : ∀ rest, cs ≠ '-' :: rest) :
    Literal cs i ↔ ∃ n, Natural cs n ∧ Int.ofNat n = i := by
  constructor
  · rintro (hn | hd)
    · exact ⟨_, hn, rfl⟩
    · exact absurd rfl (h _)
  · rintro ⟨n, hn, rfl⟩
    exact .natural hn

/-- The reader takes exactly the literals of 64 bits. -/
theorem integer?_eq_some_iff {cs : List Char} {i : Int} :
    integer? cs = some i ↔ Literal cs i ∧ minInt64 ≤ i ∧ i ≤ maxInt64 := by
  have hvalue : ∀ value : Option Int, (value = some i ↔ Literal cs i) →
      ((value.filter fun i => minInt64 ≤ i && i ≤ maxInt64) = some i ↔
        Literal cs i ∧ minInt64 ≤ i ∧ i ≤ maxInt64) := by
    intro value h
    simp [Option.filter_eq_some_iff, h]
  apply hvalue
  split
  · next rest =>
    rw [literal_iff (by simp), Option.map_eq_some_iff]
    simp only [natural_plus_iff]
  · exact literal_minus_iff.symm
  · next hplus hminus =>
    rw [literal_iff fun rest he => hminus rest he, Option.map_eq_some_iff]
    simp only [natural_iff fun rest he => hplus rest he]

/-- Nothing but digits and one plus sign stands in a literal. -/
theorem Natural.not_mem {cs : List Char} {n : Nat} (h : Natural cs n) {c : Char} (hplus : c ≠ '+')
    (hdigit : c.isDigit = false) : c ∉ cs := by
  intro hc
  have hin : ∀ {ds : List Char}, Digits ds → c ∉ ds := fun hd hc => by
    simpa [hdigit] using hd.2 c hc
  cases h with
  | bare hd => exact hin hd hc
  | plus hd =>
    rcases List.mem_cons.mp hc with rfl | hc
    · exact hplus rfl
    · exact hin hd hc

/-! ## Between blanks

Trimming takes blanks away at both ends until something else stands there. So what it leaves is
settled by what stood between the blanks. -/

theorem dropBlanks_append {before : List Char} (h : ∀ c ∈ before, isBlank c = true)
    (cs : List Char) : dropBlanks (before ++ cs) = dropBlanks cs := by
  induction before with
  | nil => rfl
  | cons c before ih =>
    obtain ⟨hc, hrest⟩ := List.forall_mem_cons.mp h
    simpa [dropBlanks, hc] using ih hrest

theorem exists_append_dropBlanks (cs : List Char) :
    ∃ before, (∀ c ∈ before, isBlank c = true) ∧ cs = before ++ dropBlanks cs := by
  refine ⟨cs.takeWhile isBlank, fun c hc => List.mem_takeWhile_imp hc, ?_⟩
  exact (List.takeWhile_append_dropWhile).symm

/-- Trimming leaves what stands between the blanks at the ends. -/
theorem trimChars_eq_iff {cs core : List Char} :
    trimChars cs = core ↔ Trimmed core ∧ ∃ before behind, cs = before ++ core ++ behind ∧
      (∀ c ∈ before, isBlank c = true) ∧ ∀ c ∈ behind, isBlank c = true := by
  constructor
  · rintro rfl
    refine ⟨trimmed_trimChars cs, ?_⟩
    obtain ⟨before, hbefore, hcs⟩ := exists_append_dropBlanks cs
    obtain ⟨behind, hbehind, hrest⟩ := exists_append_dropBlanks (dropBlanks cs).reverse
    refine ⟨before, behind.reverse, ?_, hbefore, fun c hc => hbehind c (List.mem_reverse.mp hc)⟩
    have h1 : dropBlanks cs = trimChars cs ++ behind.reverse := by
      rw [trimChars, ← List.reverse_append, ← hrest, List.reverse_reverse]
    rw [List.append_assoc, ← h1]
    exact hcs
  · rintro ⟨htrimmed, before, behind, rfl, hbefore, hbehind⟩
    have hbehind' : ∀ c ∈ behind.reverse, isBlank c = true :=
      fun c hc => hbehind c (List.mem_reverse.mp hc)
    have hback : dropBlanks core.reverse = core.reverse :=
      dropBlanks_eq_self (by simpa [List.head?_reverse] using htrimmed.2)
    rw [trimChars, List.append_assoc, dropBlanks_append hbefore]
    cases core with
    | nil =>
      -- With nothing in the middle all blanks are dropped from the front.
      have hnil : dropBlanks behind = [] := by
        simpa [dropBlanks] using dropBlanks_append hbehind []
      rw [List.nil_append, hnil]
      rfl
    | cons c core =>
      have hfront : dropBlanks (c :: core ++ behind) = c :: core ++ behind :=
        dropBlanks_eq_self (by simpa using htrimmed.1)
      rw [hfront, List.reverse_append, dropBlanks_append hbehind', hback, List.reverse_reverse]

/-- Between blanks stands no mark, if in the middle there is none. -/
theorem not_mem_of_trimChars {cs : List Char} {c : Char} (hblank : isBlank c = false)
    (h : c ∉ trimChars cs) : c ∉ cs := by
  obtain ⟨-, before, behind, hcs, hbefore, hbehind⟩ := trimChars_eq_iff.mp (rfl : trimChars cs = _)
  intro hc
  rw [hcs, List.mem_append, List.mem_append] at hc
  rcases hc with (hc | hc) | hc
  · simp [hbefore c hc] at hblank
  · exact h hc
  · simp [hbehind c hc] at hblank

theorem mem_of_mem_trimChars {cs : List Char} {c : Char} (h : c ∈ trimChars cs) : c ∈ cs := by
  obtain ⟨-, before, behind, hcs, -, -⟩ := trimChars_eq_iff.mp (rfl : trimChars cs = _)
  rw [hcs]
  exact List.mem_append_left _ (List.mem_append_right _ h)

/-! ## Cuts

A cut is made at the first occurrence of its mark, of which there may be several, overlapping or
not. -/

/-- A cut is made at the first mark. -/
theorem cut?_of_not_mem {m : Char} {mark before : List Char} (h : m ∉ before) (rest : List Char) :
    cut? (m :: mark) (before ++ (m :: mark) ++ rest) = some (before, rest) := by
  induction before with
  | nil =>
    have h1 : after? (m :: mark) (m :: (mark ++ rest)) = some rest := after?_eq_some.mpr rfl
    simp [cut?, h1]
  | cons c before ih =>
    simp only [List.mem_cons, not_or] at h
    have h1 : cut? (m :: mark) (before ++ m :: (mark ++ rest)) = some (before, rest) := by
      simpa using ih h.2
    simp [cut?, after?, h.1, h1]

/-- Where a mark stands, a cut is made there or before. -/
theorem exists_cut? (mark front back : List Char) :
    ∃ before rest, cut? mark (front ++ mark ++ back) = some (before, rest) ∧
      before.length ≤ front.length := by
  induction front with
  | nil =>
    cases mark with
    | nil => cases back <;> exact ⟨[], _, rfl, Nat.le_refl _⟩
    | cons m mark =>
      have hafter : after? (m :: mark) (m :: (mark ++ back)) = some back := after?_eq_some.mpr rfl
      exact ⟨[], back, by simp [cut?, hafter], Nat.le_refl _⟩
  | cons c front ih =>
    obtain ⟨before, rest, hcut, hle⟩ := ih
    rw [List.cons_append, List.cons_append, cut?]
    cases after? mark (c :: (front ++ mark ++ back)) with
    | some rest => exact ⟨[], rest, rfl, Nat.zero_le _⟩
    | none =>
      refine ⟨c :: before, rest, ?_, Nat.succ_le_succ hle⟩
      show (cut? mark (front ++ mark ++ back)).map _ = _
      rw [hcut]
      rfl

/-- A cut is made where the mark stands for the first time. -/
theorem cut?_eq_some_iff {mark cs before rest : List Char} :
    cut? mark cs = some (before, rest) ↔
      cs = before ++ mark ++ rest ∧
        ∀ front back, cs = front ++ mark ++ back → before.length ≤ front.length := by
  constructor
  · intro h
    refine ⟨cut?_eq_some h, ?_⟩
    rintro front back rfl
    obtain ⟨before', rest', hcut, hle⟩ := exists_cut? mark front back
    rw [h] at hcut
    cases hcut
    exact hle
  · rintro ⟨rfl, hfirst⟩
    obtain ⟨before', rest', hcut, hle⟩ := exists_cut? mark before rest
    have hsame := cut?_eq_some hcut
    have hlength : before.length = before'.length := Nat.le_antisymm (hfirst _ _ hsame) hle
    rw [List.append_assoc, List.append_assoc] at hsame
    obtain ⟨rfl, hrest⟩ := List.append_inj hsame hlength
    obtain rfl := List.append_cancel_left hrest
    exact hcut

/-- A text cannot be cut exactly if its mark stands nowhere in it. -/
theorem cut?_eq_none_iff {mark cs : List Char} :
    cut? mark cs = none ↔ ∀ front back, cs ≠ front ++ mark ++ back := by
  constructor
  · rintro h front back rfl
    obtain ⟨before, rest, hcut, -⟩ := exists_cut? mark front back
    rw [h] at hcut
    cases hcut
  · intro h
    cases hcut : cut? mark cs with
    | none => rfl
    | some p => exact absurd (cut?_eq_some hcut) (h p.1 p.2)

theorem cut?_eq_none {m : Char} {mark cs : List Char} (h : m ∉ cs) :
    cut? (m :: mark) cs = none :=
  cut?_eq_none_iff.mpr fun _ _ he => h (by simp [he])

/-! ## Items between separators

A separator is a single character, so that items can be found again one by one. -/

theorem splitAt_append_cons (sep : Char) (before behind : List Char) :
    splitAt sep (before ++ sep :: behind) = splitAt sep before ++ splitAt sep behind := by
  induction before with
  | nil => simp [splitAt]
  | cons c before ih =>
    rw [List.cons_append, splitAt, splitAt]
    split
    · rw [ih, List.cons_append]
    · rw [ih]
      cases hs : splitAt sep before with
      | nil => exact absurd hs (splitAt_ne_nil _ _)
      | cons item items => rfl

theorem splitAt_of_not_mem {sep : Char} {cs : List Char} (h : sep ∉ cs) :
    splitAt sep cs = [cs] := by
  induction cs with
  | nil => rfl
  | cons c cs ih =>
    simp only [List.mem_cons, not_or] at h
    rw [splitAt, if_neg (Ne.symm h.1), ih h.2]

/-- A separator parts the items before it from those behind it. -/
theorem split_append (sep : Char) (s t : String) :
    split sep (s ++ String.singleton sep ++ t) = split sep s ++ split sep t := by
  have hchars : (s ++ String.singleton sep ++ t).toList = s.toList ++ sep :: t.toList := by simp
  rw [split, hchars, splitAt_append_cons, List.map_append]
  rfl

theorem split_of_not_mem {sep : Char} {s : String} (h : sep ∉ s.toList) : split sep s = [s] := by
  rw [split, splitAt_of_not_mem h, List.map_singleton, String.ofList_toList]

/-- Items that are joined are found again, unless there are none. -/
theorem split_joinWith {sep : Char} {items : List String} (hne : items ≠ [])
    (h : ∀ item ∈ items, sep ∉ item.toList) :
    split sep (joinWith (String.singleton sep) items) = items := by
  rw [joinWith]
  induction items with
  | nil => exact absurd rfl hne
  | cons item rest ih =>
    obtain ⟨hitem, hrest⟩ := List.forall_mem_cons.mp h
    cases rest with
    | nil => rw [String.intercalate_singleton, split_of_not_mem hitem]
    | cons next rest =>
      rw [String.intercalate_cons_cons, split_append, split_of_not_mem hitem,
        ih (List.cons_ne_nil _ _) hrest]
      rfl

end KernelGate.Text
