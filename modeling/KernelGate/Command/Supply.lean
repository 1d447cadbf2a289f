import KernelGate.Kernel.Fleet
import KernelGate.Scatter
import KernelGate.Text.Decimal

/-!
# Ids and ports of a run

A run makes up its ids from a seed. An id has 32 hexadecimal digits in five groups; the digit that
opens the third group is 4, the one that opens the fourth is 8 to b.
-/

namespace KernelGate

/-- The digits of an id, from two numbers. -/
def idText (a b : Nat) : String :=
  let digits := fun (width n : Nat) => String.ofList (Text.hexDigits width (n % Nat.pow 16 width))
  Text.joinWith "-"
    [digits 8 a, digits 4 (a / Nat.pow 16 8), "4" ++ digits 3 b,
      digits 1 (8 + b / Nat.pow 16 3 % 4) ++ digits 3 (b / Nat.pow 16 4),
      digits 6 (a / Nat.pow 16 5) ++ digits 6 (b / Nat.pow 16 7)]

/-- The supply of a run: ids from a seed, and ports in the order in which they are free. -/
def Supply.seeded (seed : Nat) : Supply where
  kernelId n := idText (scattered (seed + 4 * n)) (scattered (seed + 4 * n + 1))
  sessionId n := idText (scattered (seed + 4 * n + 2)) (scattered (seed + 4 * n + 3))
  ports i :=
    { draw := fun k => scattered (seed + i * 1009 + k)
      bind := fun k _ => .bound (.ofNat (32768 + (i * portsPerKernel + k) % 28000)) }

end KernelGate
