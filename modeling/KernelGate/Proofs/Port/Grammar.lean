import KernelGate.Port.Range
import KernelGate.Proofs.Text.Literals

/-!
# The grammar of port ranges

The text of a band falls into two halves at its first two dots, and either half holds the number of
a port between blanks, the lower one first. The reader accepts exactly these texts, says of any
other one what is wrong with it, and reads back what was written, whatever blanks are put around the
numbers.

Main statements: `parse_eq_ok_iff`, `parse_eq_error_iff` (what is read, and what is refused for
what), `parse_spaced` (blanks around the numbers do not matter), `parse_grammar`.
-/

namespace KernelGate.PortRange

/-! ## Ports

A half of the text is read by trimming it and reading a number of 16 bits, which is what `Denotes`
says of it. -/

/-- A text holds the number of a port between blanks: an optional plus sign and ASCII digits. -/
def Denotes (part : List Char) (p : Port) : Prop := Text.Natural (Text.trimChars part) p

theorem port?_eq_some_iff {cs : List Char} {p : Port} : port? cs = some p ↔ Denotes cs p := by
  have hp : p.val ≤ 65535 := by omega
  rw [port?, Option.bind_eq_some_iff]
  constructor
  · rintro ⟨n, hn, hlt⟩
    obtain ⟨hnatural, -⟩ := Text.natural?_eq_some_iff.mp hn
    split at hlt
    · cases hlt
      exact hnatural
    · cases hlt
  · intro h
    exact ⟨p, Text.natural?_eq_some_iff.mpr ⟨h, hp⟩, by simp⟩

/-- What is not read denotes no port. -/
theorem port?_eq_none_iff {cs : List Char} : port? cs = none ↔ ∀ p, ¬ Denotes cs p := by
  rw [Option.eq_none_iff_forall_ne_some]
  exact forall_congr' fun p => not_congr port?_eq_some_iff

/-- A half that denotes a port has no dots. -/
theorem Denotes.not_mem_dot {cs : List Char} {p : Port} (h : Denotes cs p) : '.' ∉ cs :=
  Text.not_mem_of_trimChars (by decide) (Text.Natural.not_mem h (by decide) (by decide))

/-- Blanks around a written number do not matter. -/
theorem denotes_digits (p : Port) {before behind : List Char}
    (hbefore : ∀ c ∈ before, Text.isBlank c = true)
    (hbehind : ∀ c ∈ behind, Text.isBlank c = true) :
    Denotes (before ++ Text.digits p ++ behind) p := by
  have htrim : Text.trimChars (before ++ Text.digits p ++ behind) = Text.digits p :=
    Text.trimChars_eq_iff.mpr ⟨trimmed_digits p, before, behind, rfl, hbefore, hbehind⟩
  rw [Denotes, htrim]
  exact (Text.natural?_eq_some_iff.mp (Text.natural?_digits (Nat.le_refl p.val))).1

/-! ## Bands

The text is cut at its first two dots. Where both halves denote ports there is only one way to cut,
since neither half has a dot. -/

/-- A text with the two ends of a band and two dots between them. -/
def Written (r : PortRange) (raw : String) : Prop :=
  ∃ before behind, raw.toList = before ++ ['.', '.'] ++ behind ∧
    Text.Natural (Text.trimChars before) r.lower ∧ Text.Natural (Text.trimChars behind) r.upper

/-- The halves of a text, before and behind the first two dots in it. -/
structure Halves (raw : String) (before behind : List Char) : Prop where
  parts : raw.toList = before ++ ['.', '.'] ++ behind
  first : ∀ front back, raw.toList = front ++ ['.', '.'] ++ back → before.length ≤ front.length

/-- The cut is made at the first two dots. -/
theorem cut?_eq_some_iff_halves {raw : String} {before behind : List Char} :
    Text.cut? ['.', '.'] raw.toList = some (before, behind) ↔ Halves raw before behind := by
  rw [Text.cut?_eq_some_iff]
  exact ⟨fun h => ⟨h.1, h.2⟩, fun h => ⟨h.parts, h.first⟩⟩

/-- A number has no dots, so that the two dots behind the lower end are the first ones. -/
theorem written_iff {r : PortRange} {raw : String} :
    r.Written raw ↔
      ∃ before behind, Halves raw before behind ∧ Denotes before r.lower ∧
        Denotes behind r.upper := by
  constructor
  · rintro ⟨before, behind, hraw, hlower, hupper⟩
    have hcut : Text.cut? ['.', '.'] raw.toList = some (before, behind) := by
      rw [hraw]
      exact Text.cut?_of_not_mem (Denotes.not_mem_dot hlower) behind
    exact ⟨before, behind, cut?_eq_some_iff_halves.mp hcut, hlower, hupper⟩
  · rintro ⟨before, behind, hhalves, hlower, hupper⟩
    exact ⟨before, behind, hhalves.parts, hlower, hupper⟩

/-! ## What is read, and what is refused

The cases follow the reader: no dots, a lower half that is no port, an upper half that is none, or
ends in the wrong order. Each excludes those before it. -/

/-- What is wrong with a text that is no band. -/
inductive Refused (raw : String) : ConfigFault → Prop
  | undivided : (∀ before behind, raw.toList ≠ before ++ ['.', '.'] ++ behind) →
      Refused raw (.malformedRange raw)
  | lower {before behind : List Char} : Halves raw before behind → (∀ p, ¬ Denotes before p) →
      Refused raw (.malformedPort raw (String.ofList before))
  | upper {before behind : List Char} {p : Port} : Halves raw before behind → Denotes before p →
      (∀ q, ¬ Denotes behind q) → Refused raw (.malformedPort raw (String.ofList behind))
  | inverted {before behind : List Char} {p q : Port} : Halves raw before behind →
      Denotes before p → Denotes behind q → q < p → Refused raw (.invertedRange p q)

/-- A text is read as a band that it is written in, or is refused for what is wrong with it. -/
theorem parse_cases (raw : String) :
    (∃ r : PortRange, parse raw = .ok r ∧ r.Written raw) ∨
      ∃ e, parse raw = .error e ∧ Refused raw e := by
  rw [parse]
  cases hcut : Text.cut? ['.', '.'] raw.toList with
  | none => exact .inr ⟨_, rfl, .undivided (Text.cut?_eq_none_iff.mp hcut)⟩
  | some halves =>
    obtain ⟨before, behind⟩ := halves
    have hhalves := cut?_eq_some_iff_halves.mp hcut
    cases hlower : port? before with
    | none => exact .inr ⟨_, by simp [hlower], .lower hhalves (port?_eq_none_iff.mp hlower)⟩
    | some lower =>
      have hp := port?_eq_some_iff.mp hlower
      cases hupper : port? behind with
      | none =>
        exact .inr ⟨_, by simp [hlower, hupper], .upper hhalves hp (port?_eq_none_iff.mp hupper)⟩
      | some upper =>
        have hq := port?_eq_some_iff.mp hupper
        by_cases hle : lower ≤ upper
        · exact .inl ⟨⟨lower, upper, hle⟩, by simp [hlower, hupper, ofBounds, hle],
            written_iff.mpr ⟨before, behind, hhalves, hp, hq⟩⟩
        · exact .inr ⟨_, by simp [hlower, hupper, ofBounds, hle],
            .inverted hhalves hp hq (Fin.not_le.mp hle)⟩

/-- The band that is read is the one that is written. -/
theorem parse_eq_ok_iff {raw : String} {r : PortRange} : parse raw = .ok r ↔ r.Written raw := by
  constructor
  · intro h
    obtain ⟨r', hr', hwritten⟩ | ⟨e, he, -⟩ := parse_cases raw
    · rw [h] at hr'
      cases hr'
      exact hwritten
    · rw [h] at he
      cases he
  · intro h
    obtain ⟨before, behind, hhalves, hlower, hupper⟩ := written_iff.mp h
    have hcut := cut?_eq_some_iff_halves.mpr hhalves
    rw [← port?_eq_some_iff] at hlower hupper
    simp only [parse, hcut, hlower, hupper, ofBounds, r.lower_le_upper, ↓reduceDIte]

/-- What is wrong with a text that is refused is what it is refused for. -/
theorem parse_eq_error_iff {raw : String} {e : ConfigFault} :
    parse raw = .error e ↔ Refused raw e := by
  constructor
  · intro h
    obtain ⟨r, hr, -⟩ | ⟨e', he', hrefused⟩ := parse_cases raw
    · rw [h] at hr
      cases hr
    · rw [h] at he'
      cases he'
      exact hrefused
  · rintro (hnone | ⟨hhalves, hlower⟩ | ⟨hhalves, hlower, hupper⟩ | ⟨hhalves, hlower, hupper, hlt⟩)
    · rw [parse, Text.cut?_eq_none_iff.mpr hnone]
    all_goals rw [parse, cut?_eq_some_iff_halves.mpr hhalves]
    · simp only [port?_eq_none_iff.mpr hlower]
    · simp only [port?_eq_some_iff.mpr hlower, port?_eq_none_iff.mpr hupper]
    · simp only [port?_eq_some_iff.mpr hlower, port?_eq_some_iff.mpr hupper, ofBounds,
        Fin.not_le.mpr hlt, ↓reduceDIte]

/-- What a text that is no band is refused for. -/
def Unreadable (raw : String) (e : ConfigFault) : Prop :=
  e = .malformedRange raw ∨ (∃ part, e = .malformedPort raw part) ∨
    ∃ lower upper, e = .invertedRange lower upper

theorem unreadable_of_parse {raw : String} {e : ConfigFault} (h : parse raw = .error e) :
    Unreadable raw e := by
  cases parse_eq_error_iff.mp h with
  | undivided => exact .inl rfl
  | lower => exact .inr (.inl ⟨_, rfl⟩)
  | upper => exact .inr (.inl ⟨_, rfl⟩)
  | inverted => exact .inr (.inr ⟨_, _, rfl⟩)

/-- No number is a band. -/
theorem not_written_decimal (r : PortRange) (i : Int) : ¬ r.Written (Text.decimal i) := by
  rintro ⟨before, behind, hraw, -⟩
  have hdigits : ∀ n, '.' ∉ Text.digits n := fun n h =>
    absurd (Text.isDigit_of_mem_digits n '.' h) (by decide)
  have hnone : '.' ∉ Text.signedDigits i := by
    cases i with
    | ofNat n => exact hdigits n
    | negSucc n => simpa [Text.signedDigits] using hdigits (n + 1)
  rw [Text.decimal, String.toList_ofList] at hraw
  exact hnone (by simp [hraw])

/-! ## Blanks around the numbers

Both halves are trimmed before they are read. -/

/-- Blanks for either side of two numbers. -/
structure Spacing where
  beforeLower : List Char
  behindLower : List Char
  beforeUpper : List Char
  behindUpper : List Char
  blank : ∀ side ∈ [beforeLower, behindLower, beforeUpper, behindUpper], ∀ c ∈ side,
    Text.isBlank c = true

/-- The text of a band with blanks around its numbers. -/
def spaced (r : PortRange) (s : Spacing) : String :=
  String.ofList (s.beforeLower ++ Text.digits r.lower ++ s.behindLower ++ ['.', '.'] ++
    (s.beforeUpper ++ Text.digits r.upper ++ s.behindUpper))

/-- A band is read back with whatever blanks are put around its numbers. -/
theorem parse_spaced (r : PortRange) (s : Spacing) : parse (r.spaced s) = .ok r := by
  have hblank := s.blank
  simp only [List.forall_mem_cons] at hblank
  obtain ⟨hbeforeLower, hbehindLower, hbeforeUpper, hbehindUpper, -⟩ := hblank
  apply parse_eq_ok_iff.mpr
  exact ⟨_, _, String.toList_ofList, denotes_digits r.lower hbeforeLower hbehindLower,
    denotes_digits r.upper hbeforeUpper hbehindUpper⟩

/-! ## The grammar

What is read, what is refused and for what, and what is written, in one statement. -/

/-- A text is read exactly if its halves at the first two dots hold two ports between blanks, the
lower one first. What is read has these two ends; any other text is refused as a configuration that
makes no sense, for what is wrong with it. What is written is read back, also with blanks around the
numbers. -/
theorem parse_grammar :
    (∀ raw, (∃ r, parse raw = .ok r) ↔
      ∃ before behind lower upper, Halves raw before behind ∧ Denotes before lower ∧
        Denotes behind upper ∧ lower ≤ upper) ∧
    (∀ raw r before behind, parse raw = .ok r → Halves raw before behind →
      Denotes before r.lower ∧ Denotes behind r.upper) ∧
    (∀ raw f, (parse raw).mapError Fault.configuration = .error f ↔
      ∃ e, f = .configuration e ∧ Refused raw e) ∧
    ∀ r : PortRange, parse r.text = .ok r ∧ ∀ s, parse (r.spaced s) = .ok r := by
  refine ⟨fun raw => ⟨?_, ?_⟩, ?_, fun raw f => ⟨?_, ?_⟩, fun r => ⟨parse_text r, parse_spaced r⟩⟩
  · rintro ⟨r, hr⟩
    obtain ⟨before, behind, hhalves, hlower, hupper⟩ := written_iff.mp (parse_eq_ok_iff.mp hr)
    exact ⟨before, behind, r.lower, r.upper, hhalves, hlower, hupper, r.lower_le_upper⟩
  · rintro ⟨before, behind, lower, upper, hhalves, hlower, hupper, hle⟩
    exact ⟨⟨lower, upper, hle⟩,
      parse_eq_ok_iff.mpr (written_iff.mpr ⟨before, behind, hhalves, hlower, hupper⟩)⟩
  · intro raw r before behind hr hhalves
    obtain ⟨before', behind', hhalves', hlower, hupper⟩ :=
      written_iff.mp (parse_eq_ok_iff.mp hr)
    -- A text has only one pair of halves.
    have hsame := cut?_eq_some_iff_halves.mpr hhalves
    rw [cut?_eq_some_iff_halves.mpr hhalves'] at hsame
    cases hsame
    exact ⟨hlower, hupper⟩
  · intro h
    cases hparse : parse raw with
    | ok r => simp [hparse, Except.mapError] at h
    | error e =>
      simp only [hparse, Except.mapError, Except.error.injEq] at h
      exact ⟨e, h.symm, parse_eq_error_iff.mp hparse⟩
  · rintro ⟨e, rfl, he⟩
    rw [parse_eq_error_iff.mpr he]
    rfl

end KernelGate.PortRange
