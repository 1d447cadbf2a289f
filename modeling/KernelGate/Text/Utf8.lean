/-!
# UTF-8

Bytes as characters. A byte that belongs to no well-formed character is kept in its place as
`none`, so that a reader can pass over broken text that it does not use.

Main statements: `glyphs_encode` and `text?_encode` (decoding gives back what was encoded).
-/

namespace KernelGate.Utf8

/-- The bytes of a text. -/
def encode (s : String) : List UInt8 := s.toList.flatMap String.utf8EncodeChar

/-- The character at the front of the bytes, if they start with a well-formed one. -/
def char? (bytes : List UInt8) : Option Char := (bytes.take 4).toByteArray.utf8DecodeChar? 0

/-- The characters of the bytes, with `none` for each byte that is part of none; `skip` bytes of
the last character are passed over first. -/
def glyphsFrom : (skip : Nat) → List UInt8 → List (Option Char)
  | _, [] => []
  | skip + 1, _ :: bytes => glyphsFrom skip bytes
  | 0, byte :: bytes =>
    match char? (byte :: bytes) with
    | some c => some c :: glyphsFrom (c.utf8Size - 1) bytes
    | none => none :: glyphsFrom 0 bytes

/-- The characters of the bytes, with `none` for each byte that is part of none. -/
def glyphs (bytes : List UInt8) : List (Option Char) := glyphsFrom 0 bytes

/-- The text of the bytes, if all of them are well formed. -/
def text? (bytes : List UInt8) : Option String := ((glyphs bytes).mapM id).map String.ofList

/-! ## Decoding what was encoded

Characters are decoded from the front, and the bytes of each are passed over. What was encoded falls
into characters again, with nothing in between. -/

theorem length_utf8EncodeChar_pos (c : Char) : 0 < (String.utf8EncodeChar c).length := by
  rw [String.length_utf8EncodeChar]
  exact Char.utf8Size_pos c

/-- The character in front is found whatever follows it. -/
theorem char?_encodeChar_append (c : Char) (rest : List UInt8) :
    char? (String.utf8EncodeChar c ++ rest) = some c := by
  have hlen : (String.utf8EncodeChar c).length ≤ 4 := by
    rw [String.length_utf8EncodeChar]
    exact Char.utf8Size_le_four c
  rw [char?, List.take_append, List.take_of_length_le hlen, List.toByteArray_append]
  exact ByteArray.utf8DecodeChar?_utf8EncodeChar_append

theorem glyphsFrom_length_append (skipped rest : List UInt8) :
    glyphsFrom skipped.length (skipped ++ rest) = glyphsFrom 0 rest := by
  induction skipped with
  | nil => rfl
  | cons b bs ih => simpa [glyphsFrom] using ih

theorem glyphs_flatMap (cs : List Char) :
    glyphs (cs.flatMap String.utf8EncodeChar) = cs.map some := by
  induction cs with
  | nil => rfl
  | cons c cs ih =>
    have h1 := char?_encodeChar_append c (cs.flatMap String.utf8EncodeChar)
    have h2 := String.length_utf8EncodeChar c
    have h3 := length_utf8EncodeChar_pos c
    rw [List.flatMap_cons, glyphs]
    generalize String.utf8EncodeChar c = bytes at *
    cases bytes with
    | nil => simp at h3
    | cons b bs =>
      rw [List.cons_append] at h1 ⊢
      have h4 : c.utf8Size - 1 = bs.length := by
        rw [← h2]; simp
      rw [glyphsFrom, h1]
      simp only [h4, glyphsFrom_length_append, List.map_cons]
      exact congrArg (some c :: ·) ih

theorem glyphs_encode (s : String) : glyphs (encode s) = s.toList.map some :=
  glyphs_flatMap s.toList

/-- A text is found again in its bytes. -/
theorem text?_encode (s : String) : text? (encode s) = some s := by
  have h : ∀ cs : List Char, (cs.map some).mapM id = some cs := by
    intro cs
    induction cs with
    | nil => rfl
    | cons c cs ih => simp [List.mapM_cons, ih]
  simp [text?, glyphs_encode, h]

end KernelGate.Utf8
