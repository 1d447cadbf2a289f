import KernelGate.Kernel.Codec
import KernelGate.Proofs.Json.Reading

/-!
# The JSON form is lossless

What is written of a session record is read back as the record: of all its texts, whatever stands in
them, of its ports and of its environment.

Main statement: `SessionRecord.readBytes_bytes`.
-/

namespace KernelGate

open Json

/-- A dictionary is made again of its entries. -/
theorem Dict.ofList_toList {β : Type} (d : Dict β) : Dict.ofList d.toList = d := by
  apply Dict.ext_get?
  intro k
  rw [Dict.ofList, Dict.get?_insertMany, Dict.find?_reverse_toList, Dict.get?_empty, Option.or_none]

/-! ## Decoding what is found

A decoder reads back what was written of its own kind. Lists, texts and numbers come first; an
object is then read field by field, each into its slot. -/

namespace Json.Decoder

variable {α : Type}

/-- A list is read back if its items are. -/
theorem list_ofJson {d : Decoder α} {toJson : α → Json} (h : ∀ a, d (.ofJson (toJson a)) = .ok a)
    (l : List α) : list d (.ofJson (.array (l.map toJson))) = .ok l := by
  have hitems : (Found.ofItems (l.map toJson)).mapM d = .ok l := by
    induction l with
    | nil => rfl
    | cons a l ih =>
      rw [List.map_cons, Found.ofItems, List.mapM_cons, h, ih]
      rfl
  show ((Found.ofItems (l.map toJson)).mapM d >>= fun vs => _) = _
  rw [hitems]
  rfl

theorem texts_ofJson (d : Dict String) : texts (.ofJson (ofTexts d)) = .ok d := by
  have hentries : ∀ read : Option String × Found → Except JsonFault (String × String),
      (∀ k s, read (some k, .text (some s)) = .ok (k, s)) → ∀ l : List (String × String),
      (Found.ofFields (l.map fun e => (e.1, .text e.2))).mapM read = .ok l := by
    intro read hread l
    induction l with
    | nil => rfl
    | cons e l ih =>
      rw [List.map_cons, Found.ofFields, List.mapM_cons, Found.ofJson, hread, ih]
      rfl
  show ((Found.ofFields (d.toList.map fun e => (e.1, .text e.2))).mapM _ >>= fun entries => _) = _
  rw [hentries _ fun _ _ => rfl]
  exact congrArg Except.ok d.ofList_toList

theorem port_ofJson (p : Port) : port (.ofJson (.number p.val)) = .ok p := by
  have hp : p.val ≤ 65535 := by omega
  have hback : Port.ofNat p.val = p := Fin.ofNat_val_eq_self p
  show (natural 65535 (.number (.natural p.val))).map Port.ofNat = _
  rw [natural, if_pos hp]
  exact congrArg Except.ok hback

/-- A field that is known is taken into its slot. -/
theorem takeFields_cons {σ : Type} {take : σ → String → Found → Option (Except JsonFault σ)}
    {s t : σ} {key : String} {v : Found} (h : take s key v = some (.ok t))
    (fields : List (Option String × Found)) :
    takeFields take s ((some key, v) :: fields) true = takeFields take t fields true := by
  simp only [takeFields, List.foldlM_cons, h]
  rfl

end Json.Decoder

open Decoder

theorem KernelSpec.decoder_ofJson (s : KernelSpec) :
    KernelSpec.decoder (.ofJson s.toJson) = .ok s := by
  have hargv : Decoder.list Decoder.text (.ofJson (ofTextList s.argv)) = .ok s.argv :=
    list_ofJson (fun _ => rfl) s.argv
  show (takeFields KernelSpec.Slots.take {} [(some "name", .text (some s.name)),
    (some "display_name", .text (some s.displayName)), (some "language", .text (some s.language)),
    (some "argv", .ofJson (ofTextList s.argv)), (some "env", .ofJson (ofTexts s.env))] true >>=
      fun _ => _) = _
  rw [takeFields_cons (by rfl), takeFields_cons (by rfl), takeFields_cons (by rfl),
    takeFields_cons (t := ⟨s.name, s.displayName, s.language, s.argv, none⟩),
    takeFields_cons (t := ⟨s.name, s.displayName, s.language, s.argv, s.env⟩)]
  · rfl
  · simp [KernelSpec.Slots.take, once, texts_ofJson, Except.map]
  · simp [KernelSpec.Slots.take, once, hargv, Except.map]

theorem LaunchParams.decoder_ofJson (p : LaunchParams) :
    LaunchParams.decoder (.ofJson p.toJson) = .ok p := by
  show (takeFields LaunchParams.take none
    [(some "env", .ofJson (ofTexts p.env))] true >>= fun _ => _) = _
  rw [takeFields_cons (t := some p.env)]
  · rfl
  · simp [LaunchParams.take, once, texts_ofJson, Except.map]

theorem KernelHandle.decoder_ofJson (h : KernelHandle) :
    KernelHandle.decoder (.ofJson h.toJson) = .ok h := by
  have hports : Decoder.list port (.ofJson (.array (h.ports.map fun p => .number p.val))) =
      .ok h.ports := list_ofJson port_ofJson h.ports
  show (takeFields KernelHandle.Slots.take {} [(some "kernel_id", .text (some h.id)),
    (some "kernel_name", .text (some h.name)), (some "username", .text (some h.user)),
    (some "host", .text (some h.host)),
    (some "ports", .ofJson (.array (h.ports.map fun p => .number p.val)))] true >>= fun _ => _) = _
  rw [takeFields_cons (by rfl), takeFields_cons (by rfl), takeFields_cons (by rfl),
    takeFields_cons (by rfl), takeFields_cons (t := ⟨h.id, h.name, h.user, h.host, h.ports⟩)]
  · rfl
  · simp [KernelHandle.Slots.take, once, hports, Except.map]

/-- A record is read back with its kernel and its parameters. -/
theorem SessionRecord.decoder_ofJson (r : SessionRecord) :
    SessionRecord.decoder (.ofJson r.toJson) = .ok r := by
  show (takeFields SessionRecord.Slots.take {} [(some "session_id", .text (some r.sessionId)),
    (some "kernel", .ofJson r.kernel.toJson), (some "launch_params", .ofJson r.params.toJson)]
    true >>= fun _ => _) = _
  rw [takeFields_cons (by rfl), takeFields_cons (t := ⟨r.sessionId, r.kernel, none⟩),
    takeFields_cons (t := ⟨r.sessionId, r.kernel, r.params⟩)]
  · rfl
  · simp [SessionRecord.Slots.take, once, r.params.decoder_ofJson, Except.map]
  · simp [SessionRecord.Slots.take, once, r.kernel.decoder_ofJson, Except.map]

theorem KernelModel.decoder_ofJson (m : KernelModel) :
    KernelModel.decoder (.ofJson m.toJson) = .ok m := by
  show (takeFields KernelModel.Slots.take {} [(some "id", .text (some m.id)),
    (some "name", .text (some m.name)), (some "owner", .text (some m.owner))] true >>=
      fun _ => _) = _
  rw [takeFields_cons (by rfl), takeFields_cons (by rfl), takeFields_cons (by rfl)]
  rfl

/-! ## Numbers of 64 bits

The only numbers that are written are those of ports, so that none is too great to be read back. -/

theorem boundedItems_map {α : Type} {toJson : α → Json} (h : ∀ a, Bounded (toJson a)) :
    ∀ l : List α, BoundedItems (l.map toJson)
  | [] => trivial
  | a :: l => ⟨h a, boundedItems_map h l⟩

theorem bounded_ofTexts (d : Dict String) : Bounded (ofTexts d) := by
  have h : ∀ l : List (String × String), BoundedFields (l.map fun e => (e.1, .text e.2)) := by
    intro l
    induction l with
    | nil => exact trivial
    | cons e l ih => exact ⟨trivial, ih⟩
  exact h d.toList

theorem KernelSpec.bounded_toJson (s : KernelSpec) : Bounded s.toJson := by
  have htext : ∀ a, Bounded (.text a) := fun _ => trivial
  exact ⟨trivial, trivial, trivial, boundedItems_map htext s.argv, bounded_ofTexts s.env, trivial⟩

theorem LaunchParams.bounded_toJson (p : LaunchParams) : Bounded p.toJson :=
  ⟨bounded_ofTexts p.env, trivial⟩

theorem KernelHandle.bounded_toJson (h : KernelHandle) : Bounded h.toJson := by
  have hport : ∀ p : Port, Bounded (.number p.val) := fun p => show p.val < 2 ^ 64 by omega
  exact ⟨trivial, trivial, trivial, trivial, boundedItems_map hport h.ports, trivial⟩

/-- A record holds no other numbers than those of its ports. -/
theorem SessionRecord.bounded_toJson (r : SessionRecord) : Bounded r.toJson :=
  ⟨trivial, r.kernel.bounded_toJson, r.params.bounded_toJson, trivial⟩

theorem KernelModel.bounded_toJson (m : KernelModel) : Bounded m.toJson :=
  ⟨trivial, trivial, trivial, trivial⟩

/-- A record comes back from the bytes of its file. -/
theorem SessionRecord.readBytes_bytes (r : SessionRecord) :
    SessionRecord.decoder.readBytes r.bytes = .ok r := by
  rw [SessionRecord.bytes, readBytes_pretty _ r.bounded_toJson, r.decoder_ofJson]

end KernelGate
