import KernelGate.Kernel.Fleet
import KernelGate.Text.Decimal

/-!
# Names of generated ids

In a rehearsal the ids that the gateway makes up are numbered. Each has a plain name, `$k0` for the
first kernel and `$s0` for the first session. The id itself starts with the greatest character there
is, so that in order it stands behind all ids that are given, and by number among its like.
-/

namespace KernelGate.Rehearsal

/-- The character that generated ids start with. -/
def mark : Char := Char.ofNat 0x10ffff

/-- The number of digits of a generated id. -/
def width : Nat := 6

/-- The digits of a number, filled up with zeros. -/
def padded (n : Nat) : List Char :=
  List.replicate (width - (Text.digits n).length) '0' ++ Text.digits n

/-- The id with a number, of kernels or sessions by its letter. -/
def idChars (letter : Char) (n : Nat) : List Char := mark :: letter :: padded n

/-- The id of the kernel that is launched as number `n`. -/
def kernelId (n : Nat) : String := String.ofList (idChars 'k' n)

/-- The id of the session that is named as number `n`. -/
def sessionId (n : Nat) : String := String.ofList (idChars 's' n)

/-- Whether an id has been generated. -/
def isGenerated (id : String) : Bool := id.toList.head? = some mark

/-- A text with plain names for generated ids. -/
def plainChars : List Char → List Char
  | [] => []
  | c :: cs =>
    if c = mark then
      match cs with
      | letter :: rest =>
        '$' :: letter :: Text.digits ((Text.digits? (rest.take width)).getD 0) ++
          plainChars (rest.drop width)
      | [] => ['$']
    else c :: plainChars cs
termination_by cs => cs.length
decreasing_by
  · simp; omega
  · simp

/-- A text with plain names for generated ids. -/
def plain (s : String) : String := String.ofList (plainChars s.toList)

/-- A text with ids for the plain names of the kernels and sessions that have been generated; other
names stay as they are. -/
def namedChars (kernels sessions : Nat) : (fuel : Nat) → List Char → List Char
  | 0, cs => cs
  | _ + 1, [] => []
  | fuel + 1, '$' :: letter :: cs =>
    let digits := cs.takeWhile Char.isDigit
    let bound := if letter = 'k' then kernels else if letter = 's' then sessions else 0
    match (Text.digits? digits).filter (· < bound) with
    | some n =>
      if Text.digits n = digits then
        idChars letter n ++ namedChars kernels sessions fuel (cs.drop digits.length)
      else '$' :: namedChars kernels sessions fuel (letter :: cs)
    | none => '$' :: namedChars kernels sessions fuel (letter :: cs)
  | fuel + 1, c :: cs => c :: namedChars kernels sessions fuel cs

/-- A text with ids for the plain names of generated kernels and sessions. -/
def named (kernels sessions : Nat) (s : String) : String :=
  String.ofList (namedChars kernels sessions (s.length + 1) s.toList)

end KernelGate.Rehearsal
