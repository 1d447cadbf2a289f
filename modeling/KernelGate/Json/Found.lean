import KernelGate.Fault
import KernelGate.Json
import KernelGate.Json.Lexeme
import KernelGate.Text.Utf8

/-!
# JSON as a reader finds it

What a JSON text holds as far as it is JSON. Where the text breaks off, the value is `broken` and
every array and object around it is marked as not closed, so that a reader that goes through the
values in order meets the fault exactly where it stands: a value of the wrong kind in front of it
is found first.
-/

namespace KernelGate.Json

/-- A value in a JSON text, as far as the text is JSON. -/
inductive Found where
  | null
  | boolean (b : Bool)
  | number (n : NumberForm)
  | text (s? : Option String)
  | array (items : List Found) (closed : Bool)
  | object (fields : List (Option String × Found)) (closed : Bool)
  | broken
  deriving Inhabited

namespace Found

/-- Whether the text went on behind the value. -/
def isComplete : Found → Bool
  | array _ closed => closed
  | object _ closed => closed
  | broken => false
  | _ => true

mutual

/-- A value as it is found where nothing is broken. -/
def ofJson : Json → Found
  | .null => .null
  | .boolean b => .boolean b
  | .number n => .number (.natural n)
  | .text s => .text (some s)
  | .array items => .array (ofItems items) true
  | .object fields => .object (ofFields fields) true

/-- Items as they are found where nothing is broken. -/
def ofItems : List Json → List Found
  | [] => []
  | v :: rest => ofJson v :: ofItems rest

/-- Fields as they are found where nothing is broken. -/
def ofFields : List (String × Json) → List (Option String × Found)
  | [] => []
  | (k, v) :: rest => (some k, ofJson v) :: ofFields rest

end

/-! ## Building values from lexemes -/

/-- An array or object that has begun: its items or fields so far, the last one first. -/
inductive Frame where
  | array (items : List Found)
  | object (fields : List (Option String × Found))
  /-- An object with a key that waits for its value. -/
  | keyed (fields : List (Option String × Found)) (key : Option String)

/-- What may come next. -/
inductive Expect where
  | value
  /-- An item, or the end of an array that has none yet. -/
  | firstItem
  /-- A key, or the end of an object that has no field yet. -/
  | firstKey
  | key
  | colon
  /-- A comma or an end. -/
  | comma

/-- Where a reader stands. -/
structure Reading where
  frames : List Frame
  expect : Expect

/-- Give up: all that has begun stays open. -/
def giveUp : List Frame → (inner : Option Found) → Found
  | [], inner => inner.getD .broken
  | .array items :: rest, inner =>
    giveUp rest (some (.array ((inner.toList ++ items).reverse) false))
  | .object fields :: rest, _ => giveUp rest (some (.object fields.reverse false))
  | .keyed fields key :: rest, inner =>
    giveUp rest (some (.object (((key, inner.getD .broken) :: fields).reverse) false))

/-- Put a value that is complete where it belongs: it is the whole value, or the reader goes on. -/
def place (v : Found) : List Frame → Found ⊕ Reading
  | [] => .inl v
  | .array items :: rest => .inr ⟨.array (v :: items) :: rest, .comma⟩
  | .keyed fields key :: rest => .inr ⟨.object ((key, v) :: fields) :: rest, .comma⟩
  | .object fields :: rest => .inr ⟨.object ((none, v) :: fields) :: rest, .comma⟩

/-- A value that is one lexeme. -/
def scalar? : Lexeme → Option Found
  | .null => some .null
  | .boolean b => some (.boolean b)
  | .number n => some (.number n)
  | .text s? => some (.text s?)
  | _ => none

/-- Take a lexeme where a value may begin. -/
def beginValue (frames : List Frame) (l : Lexeme) : Option (Found ⊕ Reading) :=
  match l with
  | .beginArray => some (.inr ⟨.array [] :: frames, .firstItem⟩)
  | .beginObject => some (.inr ⟨.object [] :: frames, .firstKey⟩)
  | l => (scalar? l).map fun v => place v frames

/-- Take one lexeme; none where it may not come. -/
def step (r : Reading) (l : Lexeme) : Option (Found ⊕ Reading) :=
  match r.expect, r.frames, l with
  | .firstItem, .array items :: rest, .endArray => some (place (.array items.reverse true) rest)
  | .firstItem, frames, l => beginValue frames l
  | .value, frames, l => beginValue frames l
  | .firstKey, .object fields :: rest, .endObject => some (place (.object fields.reverse true) rest)
  | .firstKey, .object fields :: rest, .text key => some (.inr ⟨.keyed fields key :: rest, .colon⟩)
  | .key, .object fields :: rest, .text key => some (.inr ⟨.keyed fields key :: rest, .colon⟩)
  | .colon, frames, .colon => some (.inr ⟨frames, .value⟩)
  | .comma, .array items :: rest, .comma => some (.inr ⟨.array items :: rest, .value⟩)
  | .comma, .array items :: rest, .endArray => some (place (.array items.reverse true) rest)
  | .comma, .object fields :: rest, .comma => some (.inr ⟨.object fields :: rest, .key⟩)
  | .comma, .object fields :: rest, .endObject => some (place (.object fields.reverse true) rest)
  | _, _, _ => none

/-- The value at the front of the lexemes, and the lexemes behind it. -/
def build : Reading → List Lexeme → Found × List Lexeme
  | r, [] => (giveUp r.frames none, [])
  | r, l :: rest =>
    match step r l with
    | none => (giveUp r.frames none, [])
    | some (.inl v) => (v, rest)
    | some (.inr r) => build r rest

/-- The value at the front of a text, and the lexemes behind it. -/
def read (cs : Glyphs) : Found × List Lexeme := build ⟨[], .value⟩ (lexemes cs)

end Found

end KernelGate.Json
