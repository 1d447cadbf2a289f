import KernelGate.Fault
import KernelGate.Text.Blank
import KernelGate.Text.Cut

/-!
# Port ranges

A band of ports, both ends included. The band `0..0` stands for no restriction. Its text has the
two ends with two dots between them; reading allows blanks around either number.

Main statement: `PortRange.parse_text` (reading gives back what was written).
-/

namespace KernelGate

/-- The number of a port. -/
abbrev Port := Fin 65536

namespace Port

/-- The port that stands for any: the system picks one. -/
def any : Port := 0

/-- The port of a number; beyond the last one counting starts again. -/
def ofNat (n : Nat) : Port := Fin.ofNat 65536 n

/-- The port of a number that is one. -/
def ofInt? (n : Int) : Option Port :=
  if h : 0 ≤ n ∧ n < 65536 then some ⟨n.toNat, by omega⟩ else none

end Port

/-- A band of ports, both ends included. -/
structure PortRange where
  lower : Port
  upper : Port
  lower_le_upper : lower ≤ upper
  deriving DecidableEq

namespace PortRange

/-- The band that stands for no restriction. -/
def unrestricted : PortRange := ⟨.any, .any, Nat.le_refl _⟩

instance : Inhabited PortRange := ⟨unrestricted⟩

/-- The band between two ports. -/
def ofBounds (lower upper : Port) : Except ConfigFault PortRange :=
  if h : lower ≤ upper then .ok ⟨lower, upper, h⟩
  else .error (.invertedRange lower upper)

/-- Whether the band stands for no restriction. -/
def isUnrestricted (r : PortRange) : Bool := r.lower = .any && r.upper = .any

/-- The number of ports that the band offers. -/
def size (r : PortRange) : Nat :=
  if r.isUnrestricted then 0 else r.upper.val - r.lower.val + 1

/-- Whether a port lies in the band. -/
def contains (r : PortRange) (p : Port) : Bool := r.lower ≤ p && p ≤ r.upper

/-- The two ends with two dots between them. -/
def chars (r : PortRange) : List Char := Text.digits r.lower ++ ['.', '.'] ++ Text.digits r.upper

/-- The text of a band. -/
def text (r : PortRange) : String := String.ofList r.chars

/-- A port with blanks around it. -/
def port? (cs : List Char) : Option Port :=
  (Text.natural? 65535 (Text.trimChars cs)).bind fun n =>
    if h : n < 65536 then some ⟨n, h⟩ else none

/-- Read a band: two ports with two dots between them, the lower one first. -/
def parse (s : String) : Except ConfigFault PortRange :=
  match Text.cut? ['.', '.'] s.toList with
  | none => .error (.malformedRange s)
  | some (before, behind) =>
    match port? before with
    | none => .error (.malformedPort s (String.ofList before))
    | some lower =>
      match port? behind with
      | none => .error (.malformedPort s (String.ofList behind))
      | some upper => ofBounds lower upper

/-! ## Reading back what was written -/

theorem trimmed_digits (n : Nat) : Text.Trimmed (Text.digits n) := by
  have h : ∀ c ∈ Text.digits n, Text.isBlank c = false := fun c hc => by
    have hd := Text.isDigit_of_mem_digits n c hc
    have h1 : 48 ≤ c.toNat ∧ c.toNat ≤ 57 := by
      simp only [Char.isDigit, Bool.and_eq_true, decide_eq_true_eq, ge_iff_le,
        UInt32.le_iff_toNat_le] at hd
      exact hd
    simp only [Text.isBlank, Bool.or_eq_false_iff, Bool.and_eq_false_iff, decide_eq_false_iff_not,
      beq_eq_false_iff_ne]
    omega
  exact ⟨fun c hc => h c (List.mem_of_head? hc), fun c hc => h c (List.mem_of_getLast? hc)⟩

theorem port?_digits (p : Port) : port? (Text.digits p) = some p := by
  have h : p.val ≤ 65535 := by omega
  rw [port?, Text.trimChars_eq_self (trimmed_digits _), Text.natural?_digits h]
  simp

theorem cut?_digits (n : Nat) (rest : List Char) :
    Text.cut? ['.', '.'] (Text.digits n ++ '.' :: '.' :: rest) = some (Text.digits n, rest) := by
  have h := Text.isDigit_of_mem_digits n
  generalize Text.digits n = ds at h
  induction ds with
  | nil => simp [Text.cut?, Text.after?]
  | cons c ds ih =>
    have hc : '.' ≠ c := by
      rintro rfl
      exact absurd (h '.' List.mem_cons_self) (by decide)
    have ih' := ih fun d hd => h d (List.mem_cons_of_mem _ hd)
    simp [Text.cut?, Text.after?, hc, ih']

theorem parse_text (r : PortRange) : parse r.text = .ok r := by
  have h := r.lower_le_upper
  rw [parse, text, String.toList_ofList, chars, List.append_assoc]
  simp only [List.cons_append, List.nil_append, cut?_digits, port?_digits, ofBounds, h,
    ↓reduceDIte]

end PortRange

end KernelGate
