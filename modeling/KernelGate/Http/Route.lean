import KernelGate.Http.Status
import KernelGate.Text.Cut
import KernelGate.Text.Utf8

/-!
# Routes

Which resource the path of a request names, and which methods each resource answers to.
-/

namespace KernelGate

/-- A request of a client. -/
structure Request where
  method : String
  /-- The path, with a query behind it. -/
  path : String
  contentType? : Option String
  body : List UInt8
  deriving Inhabited

/-- The body of an answer. -/
inductive Body where
  | none
  /-- Words for a reader. -/
  | words
  | json (j : Json)
  /-- A JSON body that is left out. -/
  | unsentJson

/-- An answer to a client. -/
structure Response where
  status : Status
  /-- The methods that the resource answers to, where the request had another one. -/
  allow? : Option String
  body : Body

namespace Response

/-- An answer without a body. -/
def bare (status : Status) : Response := ⟨status, none, .none⟩

/-- An answer that carries JSON. -/
def json (status : Status) (j : Json) : Response := ⟨status, none, .json j⟩

/-- An answer that says in words what is wrong. -/
def words (status : Status) : Response := ⟨status, none, .words⟩

/-- The answer that reports a fault. -/
def fault (f : Fault) : Response := json f.status f.body

/-- The answer without its body. -/
def headOnly (r : Response) : Response :=
  { r with body := match r.body with
    | .json _ => .unsentJson
    | .unsentJson => .unsentJson
    | _ => .none }

end Response

/-- A resource of the gateway. -/
inductive Resource where
  | info
  | specs
  | kernels
  /-- The kernel whose id stands in the path; none if that is no text. -/
  | kernel (id? : Option String)
  deriving DecidableEq, Repr

namespace Resource

/-- The methods that a resource answers to. -/
def methods : Resource → List String
  | info => ["GET", "HEAD"]
  | specs => ["GET", "HEAD"]
  | kernels => ["GET", "HEAD", "POST"]
  | kernel _ => ["GET", "HEAD", "DELETE"]

/-- The bytes of a part of a path, where `%` and two hexadecimal digits stand for a byte. -/
def percentDecode : (fuel : Nat) → List UInt8 → List UInt8
  | 0, _ => []
  | fuel + 1, bs =>
    match bs with
    | [] => []
    | 0x25 :: a :: b :: rest =>
      match Text.hexValue? (Char.ofNat a.toNat), Text.hexValue? (Char.ofNat b.toNat) with
      | some x, some y => (x * 16 + y).toUInt8 :: percentDecode fuel rest
      | _, _ => 0x25 :: percentDecode fuel (a :: b :: rest)
    | byte :: rest => byte :: percentDecode fuel rest

/-- The text of a part of a path. -/
def decodePart? (part : String) : Option String :=
  let bytes := Utf8.encode part
  Utf8.text? (percentDecode (bytes.length + 1) bytes)

/-- The path without the query. -/
def barePath (path : String) : String :=
  String.ofList (path.toList.takeWhile fun c => c ≠ '?' && c ≠ '#')

/-- The resource that a path names. -/
def ofPath? (path : String) : Option Resource :=
  match Text.split '/' (barePath path) with
  | ["", "api"] => some info
  | ["", "api", "kernelspecs"] => some specs
  | ["", "api", "kernels"] => some kernels
  | ["", "api", "kernels", id] => if id = "" then none else some (kernel (decodePart? id))
  | _ => none

end Resource

end KernelGate
