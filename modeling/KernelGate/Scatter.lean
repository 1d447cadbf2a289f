/-!
# Scattered numbers

A sequence of numbers without a visible pattern: neighbours in it have nothing to do with each
other, though each is settled by its place.
-/

namespace KernelGate

/-- The number at a place of the sequence, below `2 ^ 53`. -/
def scattered (i : Nat) : Nat :=
  let x := (i + 1) * 0x9E3779B97F4A7C15 % 18446744073709551616
  let x := (x ^^^ (x >>> 30)) * 0xBF58476D1CE4E5B9 % 18446744073709551616
  let x := (x ^^^ (x >>> 27)) * 0x94D049BB133111EB % 18446744073709551616
  (x ^^^ (x >>> 31)) >>> 11

end KernelGate
