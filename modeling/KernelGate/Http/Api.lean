import KernelGate.Http.MediaType
import KernelGate.Http.Route
import KernelGate.Kernel.Catalog
import KernelGate.Kernel.Codec
import KernelGate.Session.Registry

/-!
# The interface for clients

What the gateway answers to requests. Until the kernel resources are open only the gateway's own
data is served. Answers to requests for kernels are activities of the registry.
-/

namespace KernelGate

/-- What the kernel resources work with. -/
structure KernelApi where
  catalog : Catalog
  defaultKernel : String
  /-- Whether a look at a kernel counts as use. -/
  tracksUse : Bool

/-- The interface that a gateway offers: its own data, and the kernel resources once they are
open. -/
structure Api where
  pingMillis : Nat
  kernels? : Option KernelApi

namespace Api

/-- The name of the interface. -/
def name : String := "jupyter-websocket"

/-- The interface that a configuration names, with the kernel resources still closed. -/
def ofConfig (c : Config) : Except ConfigFault Api :=
  if c.api = name then .ok ⟨c.pingMillis, none⟩ else .error (.unknownApi c.api name)

/-- Open the kernel resources; the default kernel must be in the catalog. -/
def openKernels (api : Api) (c : Config) (catalog : Catalog) (tracksUse : Bool) :
    Except ConfigFault Api :=
  match catalog.get c.defaultKernel with
  | .error _ => .error (.unknownDefaultKernel c.defaultKernel)
  | .ok _ => .ok { api with kernels? := some ⟨catalog, c.defaultKernel, tracksUse⟩ }

/-- The greatest number of bytes of a body. -/
def maxBody : Nat := 2097152

/-- The data of the gateway itself. -/
def info (api : Api) : Json :=
  .object [("gateway", .text "kernel-gateway"), ("version", .text "0.1.0"),
    ("settings", .object [("allow_remote_access", .boolean true),
      ("ws_ping_interval_ms", .number api.pingMillis)])]

/-- The specs that kernels can be started from. -/
def specs (k : KernelApi) : Json :=
  .object [("default", .text k.defaultKernel),
    ("kernelspecs", .object (k.catalog.all.map fun s => (s.name, s.toJson)))]

/-- The wish of a client to start a kernel, or the answer that refuses its body. -/
def wish (r : Request) : Except Response StartRequest :=
  if !(r.contentType?.map MediaType.isJson).getD false then
    .error (.words .unsupportedMediaType)
  else if r.body.length > maxBody then .error (.words .payloadTooLarge)
  else
    match StartRequest.decoder.readBytes r.body with
    | .ok w => .ok w
    | .error .malformed => .error (.words .badRequest)
    | .error .unexpected => .error (.words .unprocessable)

variable {S : Type} [SessionStore S]

/-- Start a kernel. -/
def start (k : KernelApi) (r : Request) : Activity (Registry S) Response :=
  match wish r with
  | .error refusal => return refusal
  | .ok w =>
    match k.catalog.get (w.name?.getD k.defaultKernel) with
    | .error e => return .fault (.notFound e)
    | .ok spec => do
      match ← Registry.startKernel spec ⟨w.env⟩ with
      | .error e => return .fault e
      | .ok record => return .json .created record.kernel.model.toJson

/-- Look at a kernel. -/
def lookAt (k : KernelApi) (id : String) : Activity (Registry S) Response := do
  let r ← Activity.look
  match r.fleet.get? id with
  | none => return .fault (.notFound (.kernel id))
  | some h =>
    if k.tracksUse then
      Activity.change fun (r : Registry S) => { r with fleet := r.fleet.touch id }
    return .json .ok h.model.toJson

/-- End a kernel. -/
def delete (id : String) : Activity (Registry S) Response := do
  match ← Registry.shutdownKernel id with
  | .error e => return .fault e
  | .ok () => return .bare .noContent

/-- All kernels. -/
def list : Activity (Registry S) Response := do
  let r ← Activity.look
  return .json .ok (.array (r.fleet.list.map fun h => h.model.toJson))

/-- Answer a request by a method that the resource knows. -/
def serve (api : Api) (resource : Resource) (method : String) (r : Request) :
    Activity (Registry S) Response :=
  match resource, api.kernels? with
  | .info, _ => return .json .ok api.info
  | _, none => return .bare .notFound
  | .specs, some k => return .json .ok (specs k)
  | .kernels, some k => if method = "POST" then start k r else list
  | .kernel none, some _ => return .words .badRequest
  | .kernel (some id), some k => if method = "DELETE" then delete id else lookAt k id

/-- The answer to a request. -/
def answer (api : Api) (r : Request) : Activity (Registry S) Response :=
  match Resource.ofPath? r.path with
  | none => return .bare .notFound
  | some resource =>
    -- Before the kernel resources are open there are no methods to speak of.
    if resource ≠ .info && api.kernels?.isNone then return .bare .notFound
    else if !resource.methods.contains r.method then
      return { Response.bare .methodNotAllowed with
        allow? := some (Text.joinWith "," resource.methods) }
    else if r.method = "HEAD" then
      return (← api.serve resource "GET" r).headOnly
    else api.serve resource r.method r

end Api

end KernelGate
