import KernelGate.Json.Decode
import KernelGate.Proofs.Json.Lexing

/-!
# Reading what was written

A text reads as a value if it falls into lexemes from which the value is built, wherever it stands.
Items that read as values make an array that does, and fields make an object, in either of the two
ways in which values are written. So a value that is written and read again is found as it was, and
an object may have fields of which nothing is known but how they read.

Main statements: `reads_array`, `reads_object`, `reads_chars` (what is written reads as the value),
`readText_of_reads` and `readBytes_of_reads` (a decoder is given the value).
-/

namespace KernelGate.Json

/-! ## The two ways to write

Compact and pretty texts differ in what stands before items and behind keys. With that as a
parameter, arrays and objects are written in one way, and what is read of them is shown once. -/

/-- How a value is written. -/
inductive Layout where
  | compact
  | pretty
  deriving DecidableEq

namespace Layout

/-- What stands before an item, or before the end, on a level. -/
def lead : Layout → Nat → List Char
  | compact, _ => []
  | pretty, level => newLine level

/-- What stands between a key and its value. -/
def colon : Layout → List Char
  | compact => [':']
  | pretty => [':', ' ']

/-- A value on a level. -/
def chars : Layout → Nat → Json → List Char
  | compact, _, j => j.compactChars
  | pretty, level, j => j.prettyChars level

/-- The text of a value. -/
def write : Layout → Json → String
  | compact, j => j.compact
  | pretty, j => j.pretty

/-- Items that are written already, with commas between them. -/
def items (w : Layout) (level : Nat) : List (List Char) → List Char
  | [] => []
  | [cs] => w.lead level ++ cs
  | cs :: ds :: rest => w.lead level ++ cs ++ ',' :: items w level (ds :: rest)

/-- A field whose value is written already. -/
def field (w : Layout) (f : String × List Char) : List Char := textChars f.1 ++ w.colon ++ f.2

/-- An array of items that are written already. -/
def array (w : Layout) (level : Nat) (items : List (List Char)) : List Char :=
  if items.isEmpty then ['[', ']']
  else '[' :: w.items (level + 1) items ++ w.lead level ++ [']']

/-- An object of fields whose values are written already. -/
def object (w : Layout) (level : Nat) (fields : List (String × List Char)) : List Char :=
  if fields.isEmpty then ['\x7b', '\x7d']
  else '\x7b' :: w.items (level + 1) (fields.map w.field) ++ w.lead level ++ ['\x7d']

/-- A text is written on the outermost level. -/
theorem toList_write (w : Layout) (j : Json) : (w.write j).toList = w.chars 0 j := by
  cases w
  · exact String.toList_ofList
  · exact String.toList_ofList

/-- Items with commas between them. -/
def itemChars : Layout → Nat → List Json → List Char
  | compact, _, items => compactItems items
  | pretty, level, items => prettyItems level items

/-- Fields with commas between them. -/
def fieldChars : Layout → Nat → List (String × Json) → List Char
  | compact, _, fields => compactFields fields
  | pretty, level, fields => prettyFields level fields

theorem itemChars_eq (w : Layout) (level : Nat) (l : List Json) :
    w.itemChars level l = w.items level (l.map (w.chars level)) := by
  induction l with
  | nil => cases w <;> rfl
  | cons v rest ih =>
    cases rest with
    | nil => cases w <;> rfl
    | cons v' rest =>
      have hcons : w.itemChars level (v :: v' :: rest) =
          w.lead level ++ w.chars level v ++ ',' :: w.itemChars level (v' :: rest) := by
        cases w <;> rfl
      rw [hcons, ih]
      rfl

theorem fieldChars_eq (w : Layout) (level : Nat) (l : List (String × Json)) :
    w.fieldChars level l =
      w.items level ((l.map fun f => (f.1, w.chars level f.2)).map w.field) := by
  induction l with
  | nil => cases w <;> rfl
  | cons f rest ih =>
    cases rest with
    | nil =>
      cases w <;>
        simp [fieldChars, compactFields, prettyFields, items, field, lead, colon, chars]
    | cons f' rest =>
      have hcons : w.fieldChars level (f :: f' :: rest) = w.lead level ++
          w.field (f.1, w.chars level f.2) ++ ',' :: w.fieldChars level (f' :: rest) := by
        cases w <;> simp [fieldChars, compactFields, prettyFields, field, lead, colon, chars]
      rw [hcons, ih]
      rfl

/-- An array is its items, each written on the next level. -/
theorem chars_array (w : Layout) (level : Nat) (l : List Json) :
    w.chars level (.array l) = w.array level (l.map (w.chars (level + 1))) := by
  cases l with
  | nil => cases w <;> rfl
  | cons v rest =>
    have hchars : w.chars level (.array (v :: rest)) =
        '[' :: w.itemChars (level + 1) (v :: rest) ++ w.lead level ++ [']'] := by
      cases w <;> simp [chars, compactChars, prettyChars, itemChars, lead]
    rw [hchars, itemChars_eq]
    rfl

/-- An object is its fields, each with a value on the next level. -/
theorem chars_object (w : Layout) (level : Nat) (l : List (String × Json)) :
    w.chars level (.object l) =
      w.object level (l.map fun f => (f.1, w.chars (level + 1) f.2)) := by
  cases l with
  | nil => cases w <;> rfl
  | cons f rest =>
    have hchars : w.chars level (.object (f :: rest)) =
        '\x7b' :: w.fieldChars (level + 1) (f :: rest) ++ w.lead level ++ ['\x7d'] := by
      cases w <;> simp [chars, compactChars, prettyChars, fieldChars, lead]
    rw [hchars, fieldChars_eq]
    rfl

end Layout

/-! ## Texts that read as values

### Values that are built from lexemes -/

namespace Found

/-- Go on from where a lexeme has led. -/
def go : Found ⊕ Reading → List Lexeme → Found × List Lexeme
  | .inl v, ls => (v, ls)
  | .inr r, ls => build r ls

theorem build_cons {r : Reading} {l : Lexeme} {next : Found ⊕ Reading} (h : step r l = some next)
    (ls : List Lexeme) : build r (l :: ls) = go next ls := by
  rw [build, h]
  cases next <;> rfl

/-- A value is built from lexemes, wherever it stands. -/
structure Builds (ls : List Lexeme) (v : Found) : Prop where
  value : ∀ frames after, build ⟨frames, .value⟩ (ls ++ after) = go (place v frames) after
  /-- Where an array has just begun, the value is taken like anywhere else. -/
  first : ∀ frames after, build ⟨.array [] :: frames, .firstItem⟩ (ls ++ after) =
    build ⟨.array [] :: frames, .value⟩ (ls ++ after)

/-- Items are built from lexemes, behind the items that an array has. -/
structure BuildsItems (ls : List Lexeme) (vs : List Found) : Prop where
  items : ∀ frames before after,
    build ⟨.array before :: frames, .value⟩ (ls ++ .endArray :: after) =
      go (place (.array (before.reverse ++ vs) true) frames) after
  first : ∀ frames after, build ⟨.array [] :: frames, .firstItem⟩ (ls ++ after) =
    build ⟨.array [] :: frames, .value⟩ (ls ++ after)

/-- Fields are built from lexemes, behind the fields that an object has. -/
structure BuildsFields (ls : List Lexeme) (fs : List (Option String × Found)) : Prop where
  fields : ∀ frames before after,
    build ⟨.object before :: frames, .key⟩ (ls ++ .endObject :: after) =
      go (place (.object (before.reverse ++ fs) true) frames) after
  /-- Where an object has just begun, a key is taken like anywhere else. -/
  first : ∀ frames after, build ⟨.object [] :: frames, .firstKey⟩ (ls ++ after) =
    build ⟨.object [] :: frames, .key⟩ (ls ++ after)

variable {l : Lexeme} {ls ms : List Lexeme} {v : Found} {vs : List Found}
  {fs : List (Option String × Found)}

/-- A scalar is a value of one lexeme. -/
theorem builds_lexeme (h : scalar? l = some v) : Builds [l] v := by
  constructor
  · intro frames after
    cases l <;> cases h <;> exact build_cons rfl after
  · intro frames after
    cases l <;> cases h <;> rfl

theorem buildsItems_one (h : Builds ls v) : BuildsItems ls [v] where
  items := by
    intro frames before after
    rw [h.value]
    show build ⟨.array (v :: before) :: frames, .comma⟩ (.endArray :: after) = _
    rw [build_cons rfl, List.reverse_cons]
  first := h.first

theorem buildsItems_cons (h : Builds ls v) (hs : BuildsItems ms vs) :
    BuildsItems (ls ++ .comma :: ms) (v :: vs) where
  items := by
    intro frames before after
    rw [List.append_assoc, h.value]
    show build ⟨.array (v :: before) :: frames, .comma⟩
      (.comma :: (ms ++ .endArray :: after)) = _
    rw [build_cons rfl]
    show build ⟨.array (v :: before) :: frames, .value⟩ _ = _
    rw [hs.items, List.reverse_cons, List.append_assoc]
    rfl
  first := by
    intro frames after
    rw [List.append_assoc, h.first]

/-- Items between brackets are an array. -/
theorem builds_array (h : BuildsItems ls vs) :
    Builds (.beginArray :: (ls ++ [.endArray])) (.array vs true) where
  value := by
    intro frames after
    rw [List.cons_append, build_cons rfl, List.append_assoc]
    show build ⟨.array [] :: frames, .firstItem⟩ (ls ++ .endArray :: after) = _
    rw [h.first, h.items]
    rfl
  first := fun _ _ => rfl

theorem builds_array_nil : Builds [.beginArray, .endArray] (.array [] true) where
  value := by
    intro frames after
    show build _ (.beginArray :: .endArray :: after) = _
    rw [build_cons rfl]
    exact build_cons rfl after
  first := fun _ _ => rfl

/-- A key is taken with its colon. -/
theorem build_key (frames : List Frame) (before : List (Option String × Found)) (k : String)
    (after : List Lexeme) :
    build ⟨.object before :: frames, .key⟩ (.text (some k) :: .colon :: after) =
      build ⟨.keyed before (some k) :: frames, .value⟩ after := by
  rw [build_cons rfl]
  show build ⟨.keyed before (some k) :: frames, .colon⟩ (.colon :: after) = _
  rw [build_cons rfl]
  rfl

theorem buildsFields_one (h : Builds ls v) (k : String) :
    BuildsFields (.text (some k) :: .colon :: ls) [(some k, v)] where
  fields := by
    intro frames before after
    rw [List.cons_append, List.cons_append, build_key, h.value]
    show build ⟨.object ((some k, v) :: before) :: frames, .comma⟩ (.endObject :: after) = _
    rw [build_cons rfl, List.reverse_cons]
  first := fun _ _ => rfl

theorem buildsFields_cons (h : Builds ls v) (k : String) (hs : BuildsFields ms fs) :
    BuildsFields (.text (some k) :: .colon :: (ls ++ .comma :: ms)) ((some k, v) :: fs) where
  fields := by
    intro frames before after
    rw [List.cons_append, List.cons_append, build_key, List.append_assoc, h.value]
    show build ⟨.object ((some k, v) :: before) :: frames, .comma⟩
      (.comma :: (ms ++ .endObject :: after)) = _
    rw [build_cons rfl]
    show build ⟨.object ((some k, v) :: before) :: frames, .key⟩ _ = _
    rw [hs.fields, List.reverse_cons, List.append_assoc]
    rfl
  first := fun _ _ => rfl

/-- Fields between braces are an object. -/
theorem builds_object (h : BuildsFields ls fs) :
    Builds (.beginObject :: (ls ++ [.endObject])) (.object fs true) where
  value := by
    intro frames after
    rw [List.cons_append, build_cons rfl, List.append_assoc]
    show build ⟨.object [] :: frames, .firstKey⟩ (ls ++ .endObject :: after) = _
    rw [h.first, h.fields]
    rfl
  first := fun _ _ => rfl

theorem builds_object_nil : Builds [.beginObject, .endObject] (.object [] true) where
  value := by
    intro frames after
    show build _ (.beginObject :: .endObject :: after) = _
    rw [build_cons rfl]
    exact build_cons rfl after
  first := fun _ _ => rfl

end Found

/-! ### Lexing and building

A text that falls into lexemes does so wherever it stands, if what comes behind it can end a number.
So the lexemes of an array or an object are those of its parts, one after another with the marks
between. -/

/-- A text falls into lexemes, wherever it stands. -/
def FallsInto (cs : List Char) (ls : List Lexeme) : Prop :=
  ∀ (rest : Glyphs) (after : List Lexeme), Stops rest → Lexes rest after →
    Lexes (cs.map some ++ rest) (ls ++ after)

variable {cs ds : List Char} {ls ms : List Lexeme}

theorem Layout.stops_lead (w : Layout) (level : Nat) {c : Char}
    (hc : c.isDigit = false ∧ c ≠ '.' ∧ c ≠ 'e' ∧ c ≠ 'E') (rest : Glyphs) :
    Stops ((w.lead level).map some ++ some c :: rest) := by
  cases w with
  | compact => exact stops_cons hc rest
  | pretty => exact stops_newLine level _

theorem Layout.lexes_lead (w : Layout) (level : Nat) {rest : Glyphs} (h : Lexes rest ls) :
    Lexes ((w.lead level).map some ++ rest) ls := by
  cases w with
  | compact => exact h
  | pretty => exact lexes_newLine level h

theorem FallsInto.lead (h : FallsInto cs ls) (w : Layout) (level : Nat) :
    FallsInto (w.lead level ++ cs) ls := by
  intro rest after hrest hafter
  rw [List.map_append, List.append_assoc]
  exact w.lexes_lead level (h rest after hrest hafter)

/-- A comma ends an item and begins the next. -/
theorem FallsInto.comma (h : FallsInto cs ls) (hs : FallsInto ds ms) :
    FallsInto (cs ++ ',' :: ds) (ls ++ .comma :: ms) := by
  intro rest after hrest hafter
  have hcomma := lexes_mark (c := ',') (l := .comma) rfl (fun _ => rfl) (hs rest after hrest hafter)
  simpa using h _ _ (stops_cons (by decide) _) hcomma

/-- A field is its key, a colon, and its value. -/
theorem FallsInto.field (h : FallsInto cs ls) (w : Layout) (k : String) :
    FallsInto (w.field (k, cs)) (.text (some k) :: .colon :: ls) := by
  intro rest after hrest hafter
  cases w with
  | compact =>
    have hcolon := lexes_mark (c := ':') (l := .colon) rfl (fun _ => rfl)
      (h rest after hrest hafter)
    simpa [Layout.field, Layout.colon] using lexes_text k hcolon
  | pretty =>
    have hcolon := lexes_mark (c := ':') (l := .colon) rfl (fun _ => rfl)
      (.gap (show isGap ' ' = true from rfl) (h rest after hrest hafter))
    simpa [Layout.field, Layout.colon] using lexes_text k hcolon

/-- What stands between two marks. -/
theorem FallsInto.between (h : FallsInto cs ls) (w : Layout) (level : Nat) {opening closing : Char}
    {first last : Lexeme} (hopen : isGap opening = false)
    (hfirst : ∀ rest, scanLexeme? (some opening :: rest) = some (first, rest))
    (hclose : isGap closing = false)
    (hlast : ∀ rest, scanLexeme? (some closing :: rest) = some (last, rest))
    (hstops : closing.isDigit = false ∧ closing ≠ '.' ∧ closing ≠ 'e' ∧ closing ≠ 'E') :
    FallsInto (opening :: cs ++ w.lead level ++ [closing]) (first :: (ls ++ [last])) := by
  intro rest after _ hafter
  have hend := w.lexes_lead level (lexes_mark hclose hlast hafter)
  have hbody := h _ _ (w.stops_lead level hstops rest) hend
  simpa using lexes_mark hopen hfirst hbody

theorem fallsInto_nil : FallsInto [] [] := fun _ _ _ h => h

/-- Brackets are lexemes of their own around the items. -/
theorem FallsInto.bracketed (h : FallsInto cs ls) (w : Layout) (level : Nat) :
    FallsInto ('[' :: cs ++ w.lead level ++ [']']) (.beginArray :: (ls ++ [.endArray])) :=
  h.between w level rfl (fun _ => rfl) rfl (fun _ => rfl) (by decide)

theorem FallsInto.braced (h : FallsInto cs ls) (w : Layout) (level : Nat) :
    FallsInto ('\x7b' :: cs ++ w.lead level ++ ['\x7d']) (.beginObject :: (ls ++ [.endObject])) :=
  h.between w level rfl (fun _ => rfl) rfl (fun _ => rfl) (by decide)

/-- A text falls into lexemes from which a value is built. -/
def Reads (cs : List Char) (v : Found) : Prop :=
  ∃ ls, FallsInto cs ls ∧ Found.Builds ls v

/-- The value of a field reads so, and its key is known. -/
def ReadsField (f : String × List Char) (g : Option String × Found) : Prop :=
  g.1 = some f.1 ∧ Reads f.2 g.2

/-- Items that read as values are lexed one after another, and built behind one another. -/
theorem falls_items (w : Layout) (level : Nat) {texts : List (List Char)} {vs : List Found}
    (h : List.Forall₂ Reads texts vs) (hne : texts ≠ []) :
    ∃ ls, FallsInto (w.items level texts) ls ∧ Found.BuildsItems ls vs := by
  induction h with
  | nil => exact absurd rfl hne
  | @cons cs v rest vs hread hrest ih =>
    obtain ⟨ls, hls, hv⟩ := hread
    cases hrest with
    | nil => exact ⟨ls, hls.lead w level, Found.buildsItems_one hv⟩
    | cons _ _ =>
      obtain ⟨ms, hms, hvs⟩ := ih (List.cons_ne_nil _ _)
      exact ⟨ls ++ .comma :: ms, (hls.lead w level).comma hms, Found.buildsItems_cons hv hvs⟩

/-- So are fields whose values do. -/
theorem falls_fields (w : Layout) (level : Nat) {fields : List (String × List Char)}
    {fs : List (Option String × Found)} (h : List.Forall₂ ReadsField fields fs)
    (hne : fields ≠ []) :
    ∃ ls, FallsInto (w.items level (fields.map w.field)) ls ∧ Found.BuildsFields ls fs := by
  induction h with
  | nil => exact absurd rfl hne
  | @cons f g rest fs hread hrest ih =>
    obtain ⟨k, cs⟩ := f
    obtain ⟨_, v⟩ := g
    obtain ⟨rfl, ls, hls, hv⟩ := hread
    have hfield := (hls.field w k).lead w level
    cases hrest with
    | nil => exact ⟨_, hfield, Found.buildsFields_one hv k⟩
    | cons _ _ =>
      obtain ⟨ms, hms, hfs⟩ := ih (List.cons_ne_nil _ _)
      exact ⟨_, hfield.comma hms, Found.buildsFields_cons hv k hfs⟩

/-- Items that read as values make an array that reads as the array of them. -/
theorem reads_array (w : Layout) (level : Nat) {texts : List (List Char)} {vs : List Found}
    (h : List.Forall₂ Reads texts vs) : Reads (w.array level texts) (.array vs true) := by
  cases h with
  | nil => exact ⟨_, fallsInto_nil.bracketed .compact level, Found.builds_array_nil⟩
  | cons hread hrest =>
    obtain ⟨ls, hls, hvs⟩ := falls_items w (level + 1) (.cons hread hrest) (List.cons_ne_nil _ _)
    exact ⟨_, hls.bracketed w level, Found.builds_array hvs⟩

/-- Fields whose values read as values make an object that reads as the object of them. -/
theorem reads_object (w : Layout) (level : Nat) {fields : List (String × List Char)}
    {fs : List (Option String × Found)} (h : List.Forall₂ ReadsField fields fs) :
    Reads (w.object level fields) (.object fs true) := by
  cases h with
  | nil => exact ⟨_, fallsInto_nil.braced .compact level, Found.builds_object_nil⟩
  | cons hread hrest =>
    obtain ⟨ls, hls, hfs⟩ := falls_fields w (level + 1) (.cons hread hrest) (List.cons_ne_nil _ _)
    exact ⟨_, hls.braced w level, Found.builds_object hfs⟩

/-! ## Values

By recursion on the value: scalars are lexemes, arrays and objects are put together of what reads
already. Only numbers have to be watched, since more than 64 bits would not be read back. -/

/-- A text that is one lexeme. -/
theorem reads_lexeme {l : Lexeme} {v : Found} (hv : Found.scalar? l = some v)
    (h : FallsInto cs [l]) : Reads cs v :=
  ⟨[l], h, Found.builds_lexeme hv⟩

theorem reads_null : Reads "null".toList .null :=
  reads_lexeme rfl fun _ _ _ h => .lexeme rfl rfl (Nat.le_add_right _ 3) h

theorem reads_boolean (b : Bool) :
    Reads (if b then "true" else "false").toList (.boolean b) := by
  cases b with
  | true => exact reads_lexeme rfl fun _ _ _ h => .lexeme rfl rfl (Nat.le_add_right _ 3) h
  | false => exact reads_lexeme rfl fun _ _ _ h => .lexeme rfl rfl (Nat.le_add_right _ 4) h

/-- A text is read back whatever is escaped in it. -/
theorem reads_text (s : String) : Reads (textChars s) (.text (some s)) :=
  reads_lexeme rfl fun _ _ _ h => lexes_text s h

/-- An integer reads as a number, of which little is told if it is negative or large. -/
theorem reads_integer (negative : Bool) (n : Nat) :
    Reads (integerChars negative n) (.number (numberForm negative (Text.digits n) [] none)) :=
  reads_lexeme rfl fun _ _ hrest h => lexes_integer negative n hrest h

/-- A number of 64 bits is read back. -/
theorem reads_number {n : Nat} (h : n < 2 ^ 64) : Reads (Text.digits n) (.number (.natural n)) :=
  reads_lexeme rfl fun _ _ hrest hafter => lexes_number h hrest hafter

mutual

/-- All numbers in a value have 64 bits. -/
def Bounded : Json → Prop
  | .number n => n < 2 ^ 64
  | .array items => BoundedItems items
  | .object fields => BoundedFields fields
  | _ => True

def BoundedItems : List Json → Prop
  | [] => True
  | v :: rest => Bounded v ∧ BoundedItems rest

def BoundedFields : List (String × Json) → Prop
  | [] => True
  | (_, v) :: rest => Bounded v ∧ BoundedFields rest

end

mutual

/-- What is written of a value reads as the value. -/
theorem reads_chars (w : Layout) (level : Nat) : (j : Json) → Bounded j →
    Reads (w.chars level j) (.ofJson j)
  | .null, _ => by
    cases w <;> exact reads_null
  | .boolean b, _ => by
    cases w <;> exact reads_boolean b
  | .number n, hn => by
    cases w <;> exact reads_number hn
  | .text s, _ => by
    cases w <;> exact reads_text s
  | .array items, hitems => by
    rw [w.chars_array]
    exact reads_array w level (reads_items w (level + 1) items hitems)
  | .object fields, hfields => by
    rw [w.chars_object]
    exact reads_object w level (reads_fields w (level + 1) fields hfields)

theorem reads_items (w : Layout) (level : Nat) : (items : List Json) → BoundedItems items →
    List.Forall₂ Reads (items.map (w.chars level)) (Found.ofItems items)
  | [], _ => .nil
  | v :: rest, h => .cons (reads_chars w level v h.1) (reads_items w level rest h.2)

theorem reads_fields (w : Layout) (level : Nat) : (fields : List (String × Json)) →
    BoundedFields fields → List.Forall₂ ReadsField
      (fields.map fun f => (f.1, w.chars level f.2)) (Found.ofFields fields)
  | [], _ => .nil
  | (_, v) :: rest, h => .cons ⟨rfl, reads_chars w level v h.1⟩ (reads_fields w level rest h.2)

end

/-! ## Decoders

A decoder is given the value that is found, whether the text comes as characters or as bytes. -/

theorem read_of_reads {v : Found} (h : Reads cs v) : Found.read (cs.map some) = (v, []) := by
  obtain ⟨ls, hls, hv⟩ := h
  have hlexes := hls [] [] stops_nil .nil
  have hbuild := hv.value [] []
  rw [List.append_nil] at hlexes hbuild
  rw [List.append_nil] at hlexes
  rw [Found.read, hlexes.lexemes_eq, hbuild]
  rfl

namespace Decoder

variable {α : Type} (d : Decoder α)

/-- A decoder is given the value that a text reads as. -/
theorem readText_of_reads {s : String} {v : Found} (h : Reads s.toList v) :
    d.readText s = d v := by
  rw [readText, readGlyphs, read_of_reads h]
  show (d v >>= fun a => .ok a) = _
  cases d v <;> rfl

/-- The bytes of a text are decoded like the text. -/
theorem readBytes_of_reads {s : String} {v : Found} (h : Reads s.toList v) :
    d.readBytes (Utf8.encode s) = d v := by
  rw [← d.readText_of_reads h, readBytes, Utf8.glyphs_encode]
  rfl

/-- A decoder is given the value that was written with one item a line. -/
theorem readBytes_pretty {j : Json} (h : Bounded j) :
    d.readBytes (Utf8.encode j.pretty) = d (.ofJson j) := by
  refine d.readBytes_of_reads ?_
  rw [pretty, String.toList_ofList]
  exact reads_chars .pretty 0 j h

end Decoder

end KernelGate.Json
