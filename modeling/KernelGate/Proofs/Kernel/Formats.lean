import KernelGate.Proofs.Kernel.Codec
import Mathlib.Data.List.Forall2

/-!
# Formats that lose nothing

What is written of a spec, of launch parameters, of a kernel, of a session record or of a model is
read back as it was, in either layout. Nor does it matter if another program has put a field into
the object that the gateway does not know.

Main statements: `tolerates_record` (a field that is not known does not count), `lossless_of` (what
makes a format lossless).
-/

namespace KernelGate

namespace Json

/-! ## Fields that are not known

A decoder goes through the fields of an object and takes those that it knows. A field that it does
not know is passed over wherever it stands, provided that its value is complete. -/

/-- A value that is no array and no object. -/
inductive Scalar where
  | text (s : String)
  | integer (negative : Bool) (n : Nat)
  | boolean (b : Bool)
  | null
  deriving DecidableEq

namespace Scalar

def chars : Scalar → List Char
  | text s => textChars s
  | integer negative n => integerChars negative n
  | boolean b => (if b then "true" else "false").toList
  | null => "null".toList

/-- What a reader finds. -/
def found : Scalar → Found
  | text s => .text (some s)
  | integer negative n => .number (numberForm negative (Text.digits n) [] none)
  | boolean b => .boolean b
  | null => .null

theorem reads_chars (x : Scalar) : Reads x.chars x.found := by
  cases x with
  | text s => exact reads_text s
  | integer negative n => exact reads_integer negative n
  | boolean b => exact reads_boolean b
  | null => exact reads_null

/-- A scalar has nothing that could be missing. -/
theorem isComplete_found (x : Scalar) : x.found.isComplete = true := by
  cases x <;> rfl

end Scalar

theorem boundedFields_append {before after : List (String × Json)} :
    BoundedFields (before ++ after) ↔ BoundedFields before ∧ BoundedFields after := by
  induction before with
  | nil => simp [BoundedFields]
  | cons f before ih => simp [BoundedFields, ih, and_assoc]

theorem Found.ofFields_append (before after : List (String × Json)) :
    ofFields (before ++ after) = ofFields before ++ ofFields after := by
  induction before with
  | nil => rfl
  | cons f before ih => simp [ofFields, ih]

/-- The fields of an object. -/
def fields : Json → List (String × Json)
  | object fields => fields
  | _ => []

namespace Layout

/-- A field of the outermost object. -/
def written (w : Layout) (f : String × Json) : String × List Char := (f.1, w.chars 1 f.2)

/-- The text of an object with one field more, which stands between the others. -/
def writeWith (w : Layout) (before : List (String × Json)) (key : String) (extra : Scalar)
    (after : List (String × Json)) : String :=
  String.ofList (w.object 0 (before.map w.written ++ (key, extra.chars) :: after.map w.written))

/-- A text with a field more is read as the object with that field in it. -/
theorem reads_writeWith (w : Layout) {before after : List (String × Json)}
    (h : BoundedFields (before ++ after)) (key : String) (extra : Scalar) :
    Reads (w.writeWith before key extra after).toList (.object
      (Found.ofFields before ++ (some key, extra.found) :: Found.ofFields after) true) := by
  obtain ⟨hbefore, hafter⟩ := boundedFields_append.1 h
  have hfields : List.Forall₂ ReadsField
      (before.map w.written ++ (key, extra.chars) :: after.map w.written)
      (Found.ofFields before ++ (some key, extra.found) :: Found.ofFields after) :=
    List.rel_append (reads_fields w 1 before hbefore)
      (.cons ⟨rfl, extra.reads_chars⟩ (reads_fields w 1 after hafter))
  rw [writeWith, String.toList_ofList]
  exact reads_object w 0 hfields

example : pretty.writeWith [("id", .text "k")] "load" (.integer true 3) [("owner", .text "bob")] =
    "\x7b\n  \"id\": \"k\",\n  \"load\": -3,\n  \"owner\": \"bob\"\n\x7d" := by
  decide +kernel

end Layout

namespace Decoder

variable {α σ : Type}

/-- A field that is not known does not count. -/
theorem takeFields_insert {take : σ → String → Found → Option (Except JsonFault σ)} {key : String}
    {v : Found} (hkey : ∀ s, take s key v = none) (hv : v.isComplete = true) (start : σ)
    (before after : List (Option String × Found)) :
    takeFields take start (before ++ (some key, v) :: after) true =
      takeFields take start (before ++ after) true := by
  have hpass : pass v = .ok () := if_pos hv
  simp only [takeFields, List.foldlM_append, List.foldlM_cons, hkey, hpass]
  rfl

/-- An object means the same with one complete field more whose key is not known. -/
def Tolerates (d : Decoder α) (known : List String) : Prop :=
  ∀ before after key v, key ∉ known → v.isComplete = true →
    d (.object (before ++ (some key, v) :: after) true) = d (.object (before ++ after) true)

/-- A decoder of records tolerates a field that none of its slots takes. -/
theorem tolerates_record {take : σ → String → Found → Option (Except JsonFault σ)}
    {known : List String} (h : ∀ s key v, key ∉ known → take s key v = none) (start : σ)
    (finish : σ → Except JsonFault α) (row : Bool → Row α) :
    Tolerates (record (fun fields closed => takeFields take start fields closed >>= finish) row)
      known := by
  intro before after key v hkey hv
  exact congrArg (· >>= finish)
    (takeFields_insert (fun s => h s key v hkey) hv start before after)

/-- A decoder gives a meaning to a text, and to the bytes of the text. -/
def Gives (d : Decoder α) (s : String) (a : α) : Prop :=
  d.readText s = .ok a ∧ d.readBytes (Utf8.encode s) = .ok a

theorem gives_of_reads {d : Decoder α} {s : String} {v : Found} {a : α} (h : Reads s.toList v)
    (hd : d v = .ok a) : d.Gives s a :=
  ⟨(d.readText_of_reads h).trans hd, (d.readBytes_of_reads h).trans hd⟩

end Decoder

end Json

open Json Decoder

/-! ## Formats

Each format is read back by its own decoder and has a table of the fields that it knows. These two
facts are all that a lossless format needs. -/

/-- What is written is read back as it was, in either layout, and so it is with a field more at any
place that has a name of its own. -/
def Lossless {α : Type} (toJson : α → Json) (d : Decoder α) : Prop :=
  ∀ (a : α) (w : Layout), d.Gives (w.write (toJson a)) a ∧
    ∃ fields, toJson a = .object fields ∧
      ∀ (before after : List (String × Json)) (key : String) (extra : Scalar),
        before ++ after = fields → key ∉ fields.map (·.1) →
          d.Gives (w.writeWith before key extra after) a

/-- A format is lossless if all values are objects of the known fields, and are decoded as they were
where nothing is added. -/
theorem lossless_of {α : Type} {toJson : α → Json} {d : Decoder α} {known : List String}
    (htolerates : d.Tolerates known) (hobject : ∀ a, toJson a = .object (toJson a).fields)
    (hknown : ∀ a, (toJson a).fields.map (·.1) = known) (hbounded : ∀ a, Bounded (toJson a))
    (hdecode : ∀ a, d (.ofJson (toJson a)) = .ok a) : Lossless toJson d := by
  intro a w
  have hbound := hbounded a
  have hvalue := hdecode a
  rw [hobject a] at hbound hvalue
  constructor
  · refine gives_of_reads ?_ (hdecode a)
    rw [w.toList_write]
    exact reads_chars w 0 _ (hbounded a)
  · refine ⟨_, hobject a, ?_⟩
    intro before after key extra hfields hkey
    rw [hknown] at hkey
    rw [← hfields] at hbound hvalue
    refine gives_of_reads (w.reads_writeWith hbound key extra) ?_
    rw [htolerates _ _ _ _ hkey extra.isComplete_found, ← Found.ofFields_append]
    exact hvalue

theorem KernelSpec.tolerates : Tolerates KernelSpec.decoder
    ["name", "display_name", "language", "argv", "env"] := by
  refine tolerates_record ?_ _ _ _
  intro s key v hkey
  unfold KernelSpec.Slots.take
  split <;> first | rfl | simp at hkey

theorem LaunchParams.tolerates : Tolerates LaunchParams.decoder ["env"] := by
  refine tolerates_record ?_ _ _ _
  intro s key v hkey
  unfold LaunchParams.take
  split <;> first | rfl | simp at hkey

theorem KernelHandle.tolerates : Tolerates KernelHandle.decoder
    ["kernel_id", "kernel_name", "username", "host", "ports"] := by
  refine tolerates_record ?_ _ _ _
  intro s key v hkey
  unfold KernelHandle.Slots.take
  split <;> first | rfl | simp at hkey

theorem SessionRecord.tolerates : Tolerates SessionRecord.decoder
    ["session_id", "kernel", "launch_params"] := by
  refine tolerates_record ?_ _ _ _
  intro s key v hkey
  unfold SessionRecord.Slots.take
  split <;> first | rfl | simp at hkey

theorem KernelModel.tolerates : Tolerates KernelModel.decoder ["id", "name", "owner"] := by
  refine tolerates_record ?_ _ _ _
  intro s key v hkey
  unfold KernelModel.Slots.take
  split <;> first | rfl | simp at hkey

/-- The formats of specs, launch parameters, kernels, session records and models lose nothing. -/
theorem formats_lossless :
    Lossless KernelSpec.toJson KernelSpec.decoder ∧
      Lossless LaunchParams.toJson LaunchParams.decoder ∧
      Lossless KernelHandle.toJson KernelHandle.decoder ∧
      Lossless SessionRecord.toJson SessionRecord.decoder ∧
      Lossless KernelModel.toJson KernelModel.decoder := by
  refine ⟨?_, ?_, ?_, ?_, ?_⟩
  · exact lossless_of KernelSpec.tolerates (fun _ => rfl) (fun _ => rfl)
      KernelSpec.bounded_toJson KernelSpec.decoder_ofJson
  · exact lossless_of LaunchParams.tolerates (fun _ => rfl) (fun _ => rfl)
      LaunchParams.bounded_toJson LaunchParams.decoder_ofJson
  · exact lossless_of KernelHandle.tolerates (fun _ => rfl) (fun _ => rfl)
      KernelHandle.bounded_toJson KernelHandle.decoder_ofJson
  · exact lossless_of SessionRecord.tolerates (fun _ => rfl) (fun _ => rfl)
      SessionRecord.bounded_toJson SessionRecord.decoder_ofJson
  · exact lossless_of KernelModel.tolerates (fun _ => rfl) (fun _ => rfl)
      KernelModel.bounded_toJson KernelModel.decoder_ofJson

end KernelGate
