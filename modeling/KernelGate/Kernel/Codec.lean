import KernelGate.Json.Decode
import KernelGate.Kernel.Handle
import KernelGate.Kernel.Spec

/-!
# The JSON form of kernels

How specs, handles, launch parameters, session records and models are written as JSON and read
back, and how a client's wish to start a kernel is read.
-/

namespace KernelGate

open Json

namespace Json

/-- Texts by key. -/
def ofTexts (d : Dict String) : Json := .object (d.toList.map fun e => (e.1, .text e.2))

/-- A list of texts. -/
def ofTextList (l : List String) : Json := .array (l.map .text)

end Json

/-- Texts by key. -/
def Json.Decoder.texts : Decoder (Dict String) := Decoder.dict Decoder.text

/-- The number of a port. -/
def Json.Decoder.port : Decoder Port := fun v =>
  (Decoder.natural 65535 v).map Port.ofNat

open Decoder

/-! ## Specs -/

namespace KernelSpec

def toJson (s : KernelSpec) : Json :=
  .object [("name", .text s.name), ("display_name", .text s.displayName),
    ("language", .text s.language), ("argv", ofTextList s.argv), ("env", ofTexts s.env)]

/-- The fields that have been read. -/
structure Slots where
  name : Option String := none
  displayName : Option String := none
  language : Option String := none
  argv : Option (List String) := none
  env : Option (Dict String) := none

def Slots.take (s : Slots) (key : String) (v : Found) : Option (Except JsonFault Slots) :=
  match key with
  | "name" => some ((once s.name Decoder.text v).map fun a => { s with name := a })
  | "display_name" =>
    some ((once s.displayName Decoder.text v).map fun a => { s with displayName := a })
  | "language" => some ((once s.language Decoder.text v).map fun a => { s with language := a })
  | "argv" => some ((once s.argv (Decoder.list Decoder.text) v).map fun a => { s with argv := a })
  | "env" => some ((once s.env texts v).map fun a => { s with env := a })
  | _ => none

def decoder : Decoder KernelSpec :=
  record
    (fun fields closed => do
      let s ← takeFields Slots.take {} fields closed
      .ok ⟨← required s.name, s.displayName.getD "", s.language.getD "", ← required s.argv,
        s.env.getD ∅⟩)
    (fun closed => do
      let name ← next closed Decoder.text none
      let displayName ← next closed Decoder.text (some "")
      let language ← next closed Decoder.text (some "")
      let argv ← next closed (Decoder.list Decoder.text) none
      let env ← next closed texts (some ∅)
      return ⟨name, displayName, language, argv, env⟩)

end KernelSpec

/-! ## Launch parameters -/

namespace LaunchParams

def toJson (p : LaunchParams) : Json := .object [("env", ofTexts p.env)]

def take (env : Option (Dict String)) (key : String) (v : Found) :
    Option (Except JsonFault (Option (Dict String))) :=
  match key with
  | "env" => some (once env texts v)
  | _ => none

def decoder : Decoder LaunchParams :=
  record
    (fun fields closed => do
      let env ← takeFields take none fields closed
      .ok ⟨env.getD ∅⟩)
    (fun closed => do return ⟨← next closed texts (some ∅)⟩)

end LaunchParams

/-! ## Handles -/

namespace KernelHandle

def toJson (h : KernelHandle) : Json :=
  .object [("kernel_id", .text h.id), ("kernel_name", .text h.name), ("username", .text h.user),
    ("host", .text h.host), ("ports", .array (h.ports.map fun p => .number p.val))]

/-- The fields that have been read. -/
structure Slots where
  id : Option String := none
  name : Option String := none
  user : Option String := none
  host : Option String := none
  ports : Option (List Port) := none

def Slots.take (s : Slots) (key : String) (v : Found) : Option (Except JsonFault Slots) :=
  match key with
  | "kernel_id" => some ((once s.id Decoder.text v).map fun a => { s with id := a })
  | "kernel_name" => some ((once s.name Decoder.text v).map fun a => { s with name := a })
  | "username" => some ((once s.user Decoder.text v).map fun a => { s with user := a })
  | "host" => some ((once s.host Decoder.text v).map fun a => { s with host := a })
  | "ports" => some ((once s.ports (Decoder.list port) v).map fun a => { s with ports := a })
  | _ => none

def decoder : Decoder KernelHandle :=
  record
    (fun fields closed => do
      let s ← takeFields Slots.take {} fields closed
      .ok ⟨← required s.id, ← required s.name, ← required s.user, ← required s.host,
        ← required s.ports⟩)
    (fun closed => do
      let id ← next closed Decoder.text none
      let name ← next closed Decoder.text none
      let user ← next closed Decoder.text none
      let host ← next closed Decoder.text none
      let ports ← next closed (Decoder.list port) none
      return ⟨id, name, user, host, ports⟩)

end KernelHandle

/-! ## Session records -/

namespace SessionRecord

def toJson (r : SessionRecord) : Json :=
  .object [("session_id", .text r.sessionId), ("kernel", r.kernel.toJson),
    ("launch_params", r.params.toJson)]

/-- The fields that have been read. -/
structure Slots where
  sessionId : Option String := none
  kernel : Option KernelHandle := none
  params : Option LaunchParams := none

def Slots.take (s : Slots) (key : String) (v : Found) : Option (Except JsonFault Slots) :=
  match key with
  | "session_id" => some ((once s.sessionId Decoder.text v).map fun a => { s with sessionId := a })
  | "kernel" => some ((once s.kernel KernelHandle.decoder v).map fun a => { s with kernel := a })
  | "launch_params" =>
    some ((once s.params LaunchParams.decoder v).map fun a => { s with params := a })
  | _ => none

def decoder : Decoder SessionRecord :=
  record
    (fun fields closed => do
      let s ← takeFields Slots.take {} fields closed
      .ok ⟨← required s.sessionId, ← required s.kernel, ← required s.params⟩)
    (fun closed => do
      let sessionId ← next closed Decoder.text none
      let kernel ← next closed KernelHandle.decoder none
      let params ← next closed LaunchParams.decoder none
      return ⟨sessionId, kernel, params⟩)

/-- The bytes of a record in a file. -/
def bytes (r : SessionRecord) : List UInt8 := Utf8.encode r.toJson.pretty

end SessionRecord

/-! ## Models -/

namespace KernelModel

def toJson (m : KernelModel) : Json :=
  .object [("id", .text m.id), ("name", .text m.name), ("owner", .text m.owner)]

/-- The fields that have been read. -/
structure Slots where
  id : Option String := none
  name : Option String := none
  owner : Option String := none

def Slots.take (s : Slots) (key : String) (v : Found) : Option (Except JsonFault Slots) :=
  match key with
  | "id" => some ((once s.id Decoder.text v).map fun a => { s with id := a })
  | "name" => some ((once s.name Decoder.text v).map fun a => { s with name := a })
  | "owner" => some ((once s.owner Decoder.text v).map fun a => { s with owner := a })
  | _ => none

def decoder : Decoder KernelModel :=
  record
    (fun fields closed => do
      let s ← takeFields Slots.take {} fields closed
      .ok ⟨← required s.id, ← required s.name, ← required s.owner⟩)
    (fun closed => do
      let id ← next closed Decoder.text none
      let name ← next closed Decoder.text none
      let owner ← next closed Decoder.text none
      return ⟨id, name, owner⟩)

end KernelModel

/-! ## Wishes to start a kernel -/

namespace StartRequest

/-- The fields that have been read. -/
structure Slots where
  name : Option (Option String) := none
  env : Option (Dict String) := none

def Slots.take (s : Slots) (key : String) (v : Found) : Option (Except JsonFault Slots) :=
  match key with
  | "name" => some ((once s.name (optional Decoder.text) v).map fun a => { s with name := a })
  | "env" => some ((once s.env texts v).map fun a => { s with env := a })
  | _ => none

def decoder : Decoder StartRequest :=
  record
    (fun fields closed => do
      let s ← takeFields Slots.take {} fields closed
      .ok ⟨s.name.join, s.env.getD ∅⟩)
    (fun closed => do
      let name ← next closed (optional Decoder.text) none
      let env ← next closed texts (some ∅)
      return ⟨name, env⟩)

end StartRequest

end KernelGate
