import KernelGate.Dict
import KernelGate.Json.Found

/-!
# Decoding JSON

Decoders from JSON values to what they mean. A structure may be an object, where fields that are
not known do not count and none may come twice, or an array of its fields in their order. The
first fault in the order of the text is the one that is reported.
-/

namespace KernelGate.Json

/-- A decoder: the meaning of a value. -/
abbrev Decoder (α : Type) := Found → Except JsonFault α

namespace Decoder

/-- The fault of a value that is of another kind than expected. -/
def refuse : Found → JsonFault
  | .number .tooLarge => .malformed
  | .text none => .malformed
  | .broken => .malformed
  | _ => .unexpected

/-- Pass over a value that does not count. -/
def pass (v : Found) : Except JsonFault Unit :=
  if v.isComplete then .ok () else .error .malformed

/-- A text. -/
def text : Decoder String
  | .text (some s) => .ok s
  | v => .error (refuse v)

/-- A natural number up to `max`. -/
def natural (max : Nat) : Decoder Nat
  | .number (.natural n) => if n ≤ max then .ok n else .error .unexpected
  | v => .error (refuse v)

/-- A value, or null for none. -/
def optional (d : Decoder α) : Decoder (Option α)
  | .null => .ok none
  | v => (d v).map some

/-- A list of values. -/
def list (d : Decoder α) : Decoder (List α)
  | .array items closed => do
    let vs ← items.mapM d
    if closed then .ok vs else .error .malformed
  | v => .error (refuse v)

/-- Values by key; the last one for a key stays. -/
def dict (d : Decoder α) : Decoder (Dict α)
  | .object fields closed => do
    let entries ← fields.mapM fun f => do
      match f.1 with
      | none => .error .malformed
      | some key => .ok (key, ← d f.2)
    if closed then .ok (Dict.ofList entries) else .error .malformed
  | v => .error (refuse v)

/-! ## Structures -/

/-- Take the value of a known field into a slot that must be empty. -/
def once (slot : Option α) (d : Decoder α) (v : Found) : Except JsonFault (Option α) :=
  match slot with
  | some _ => .error .unexpected
  | none => (d v).map some

/-- A slot that must be full. -/
def required : Option α → Except JsonFault α
  | some a => .ok a
  | none => .error .unexpected

/-- Go through the fields of an object; `take` gives none for a field that is not known. -/
def takeFields (take : σ → String → Found → Option (Except JsonFault σ)) (start : σ)
    (fields : List (Option String × Found)) (closed : Bool) : Except JsonFault σ := do
  let last ← fields.foldlM (fun (slots : σ) f => do
    match f.1 with
    | none => .error .malformed
    | some key =>
      match take slots key f.2 with
      | some r => r
      | none => do
        pass f.2
        .ok slots) start
  if closed then .ok last else .error .malformed

/-- The items of an array that stands for a structure, and whether the array is closed. -/
abbrev Row := StateT (List Found) (Except JsonFault)

/-- The next field of a row; `fallback` where the row ends before it. -/
def next (closed : Bool) (d : Decoder α) (fallback : Option α) : Row α := fun items =>
  match items with
  | v :: rest => (d v).map fun a => (a, rest)
  | [] =>
    if closed then (required fallback).map fun a => (a, [])
    else .error .malformed

/-- A structure from a row, which must hold nothing else. -/
def takeRow (row : Bool → Row α) (items : List Found) (closed : Bool) : Except JsonFault α := do
  let (a, rest) ← row closed items
  if rest.isEmpty && closed then .ok a else .error .malformed

/-- A structure from an object or from a row. -/
def record (fromFields : List (Option String × Found) → Bool → Except JsonFault α)
    (row : Bool → Row α) : Decoder α
  | .object fields closed => fromFields fields closed
  | .array items closed => takeRow row items closed
  | v => .error (refuse v)

/-! ## Whole texts -/

/-- The meaning of a text that holds one value and nothing behind it. -/
def readGlyphs (d : Decoder α) (cs : Glyphs) : Except JsonFault α := do
  let (v, rest) := Found.read cs
  let a ← d v
  if rest.isEmpty then .ok a else .error .malformed

/-- The meaning of a text. -/
def readText (d : Decoder α) (s : String) : Except JsonFault α :=
  d.readGlyphs (s.toList.map some)

/-- The meaning of the bytes of a text. -/
def readBytes (d : Decoder α) (bytes : List UInt8) : Except JsonFault α :=
  d.readGlyphs (Utf8.glyphs bytes)

end Decoder

end KernelGate.Json
