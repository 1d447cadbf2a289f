import KernelGate.Fault
import KernelGate.Json

/-!
# Answers to failures

The status that an HTTP answer has for each kind of fault, and the body that explains it. A refusal
by policy or by limit is a matter of permission, not a failure of the gateway.
-/

namespace KernelGate

/-- The status of an HTTP answer. -/
inductive Status where
  | ok
  | created
  | noContent
  | badRequest
  | forbidden
  | notFound
  | methodNotAllowed
  | payloadTooLarge
  | unsupportedMediaType
  | unprocessable
  | serverError
  | unavailable
  deriving DecidableEq, Repr, Inhabited

namespace Status

/-- The number of a status. -/
def code : Status → Nat
  | ok => 200
  | created => 201
  | noContent => 204
  | badRequest => 400
  | forbidden => 403
  | notFound => 404
  | methodNotAllowed => 405
  | payloadTooLarge => 413
  | unsupportedMediaType => 415
  | unprocessable => 422
  | serverError => 500
  | unavailable => 503

/-- The usual words for a status. -/
def reason : Status → String
  | ok => "OK"
  | created => "Created"
  | noContent => "No Content"
  | badRequest => "Bad Request"
  | forbidden => "Forbidden"
  | notFound => "Not Found"
  | methodNotAllowed => "Method Not Allowed"
  | payloadTooLarge => "Payload Too Large"
  | unsupportedMediaType => "Unsupported Media Type"
  | unprocessable => "Unprocessable Entity"
  | serverError => "Internal Server Error"
  | unavailable => "Service Unavailable"

/-- Whether a status says that the request was carried out. -/
def isSuccess (s : Status) : Bool := 200 ≤ s.code && s.code < 300

end Status

/-- The status of an answer that reports a fault. -/
def Fault.status : Fault → Status
  | .unauthorized _ => .forbidden
  | .quotaExceeded _ => .forbidden
  | .notFound _ => .notFound
  | .phase _ => .unavailable
  | _ => .serverError

/-- The body of an answer that reports a fault. -/
def Fault.body (f : Fault) : Json :=
  .object [("reason", .text f.status.reason), ("message", .text f.message)]

end KernelGate
