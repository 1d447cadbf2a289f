/-!
# Blank characters

The characters with the Unicode property White_Space, and text without the blanks at its ends.

Main statements: `isBlank_of_isWhitespace` (the blanks that core knows are among them),
`trim_trim` (nothing is left to trim), `trim_eq_self_iff` (which texts trimming leaves alone).
-/

namespace KernelGate.Text

/-- The characters with the Unicode property White_Space. -/
def isBlank (c : Char) : Bool :=
  let n := c.toNat
  (9 ≤ n && n ≤ 13) || n == 0x20 || n == 0x85 || n == 0xA0 || n == 0x1680 ||
    (0x2000 ≤ n && n ≤ 0x200A) || n == 0x2028 || n == 0x2029 || n == 0x202F || n == 0x205F ||
    n == 0x3000

/-- Whatever core takes for white space is blank here. -/
theorem isBlank_of_isWhitespace {c : Char} (h : c.isWhitespace = true) : isBlank c = true := by
  simp only [Char.isWhitespace, Bool.or_eq_true, decide_eq_true_eq] at h
  rcases h with ((h | h) | h) | h <;> subst h <;> decide

/-- The characters without the blanks in front. -/
def dropBlanks (cs : List Char) : List Char := cs.dropWhile isBlank

/-- The characters without the blanks at either end. -/
def trimChars (cs : List Char) : List Char := (dropBlanks (dropBlanks cs).reverse).reverse

/-- The text without the blanks at either end. -/
def trim (s : String) : String := String.ofList (trimChars s.toList)

/-! ## What trimming leaves

Nothing is left to trim: the front is trimmed first, then the back, and that leaves the front as it
is. -/

/-- No blank at either end. -/
def Trimmed (cs : List Char) : Prop :=
  (∀ c ∈ cs.head?, isBlank c = false) ∧ ∀ c ∈ cs.getLast?, isBlank c = false

theorem dropBlanks_eq_self {cs : List Char} (h : ∀ c ∈ cs.head?, isBlank c = false) :
    dropBlanks cs = cs := by
  cases cs with
  | nil => rfl
  | cons c r => simp [dropBlanks, h c (by simp)]

theorem head?_dropBlanks (cs : List Char) : ∀ c ∈ (dropBlanks cs).head?, isBlank c = false := by
  induction cs with
  | nil => simp [dropBlanks]
  | cons c r ih =>
    by_cases h : isBlank c = true
    · simpa [dropBlanks, h] using ih
    · simp [dropBlanks, h]

theorem getLast?_dropBlanks (cs : List Char) :
    ∀ c ∈ (dropBlanks cs).getLast?, c ∈ cs.getLast? := by
  induction cs with
  | nil => simp [dropBlanks]
  | cons c r ih =>
    by_cases h : isBlank c = true
    · intro d hd
      have hd' := ih d (by simpa [dropBlanks, h] using hd)
      cases r with
      | nil => simp at hd'
      | cons e r => simpa using hd'
    · simp [dropBlanks, h]

/-- Neither end of what is left is blank. -/
theorem trimmed_trimChars (cs : List Char) : Trimmed (trimChars cs) := by
  refine ⟨fun c hc => ?_, fun c hc => ?_⟩
  · have h1 : c ∈ (dropBlanks (dropBlanks cs).reverse).getLast? := by
      simpa [trimChars, List.head?_reverse] using hc
    have h2 := getLast?_dropBlanks _ c h1
    rw [List.getLast?_reverse] at h2
    exact head?_dropBlanks cs c h2
  · have h1 : c ∈ (dropBlanks (dropBlanks cs).reverse).head? := by
      simpa [trimChars, List.getLast?_reverse] using hc
    exact head?_dropBlanks _ c h1

theorem trimChars_eq_self {cs : List Char} (h : Trimmed cs) : trimChars cs = cs := by
  have h1 : dropBlanks cs = cs := dropBlanks_eq_self h.1
  have h2 : dropBlanks cs.reverse = cs.reverse :=
    dropBlanks_eq_self (by simpa [List.head?_reverse] using h.2)
  simp [trimChars, h1, h2]

theorem trimChars_trimChars (cs : List Char) : trimChars (trimChars cs) = trimChars cs :=
  trimChars_eq_self (trimmed_trimChars cs)

@[simp] theorem trim_trim (s : String) : trim (trim s) = trim s := by
  simp [trim, trimChars_trimChars]

/-- Trimming leaves a text alone exactly if neither end is blank. -/
theorem trim_eq_self_iff {s : String} : trim s = s ↔ Trimmed s.toList := by
  constructor
  · intro h
    have h1 := trimmed_trimChars s.toList
    have h2 : trimChars s.toList = s.toList := by
      have := congrArg String.toList h
      simpa [trim] using this
    rwa [h2] at h1
  · intro h
    simp [trim, trimChars_eq_self h]

end KernelGate.Text
