import KernelGate.Fault
import KernelGate.Kernel.Handle
import KernelGate.Text.Cut

/-!
# A host without a network

Listeners can be opened on the host's own addresses, but nothing can be reached: a connection to an
address fails, and no name but the host's own is known.
-/

namespace KernelGate.Network

/-- A part of an address: a number up to 255 without leading zeros. -/
def octet? (part : String) : Option Nat :=
  let cs := part.toList
  if cs.length > 1 && cs.head? = some '0' then none
  else if cs.length > 3 then none
  else (Text.digits? cs).filter (· ≤ 255)

/-- The four numbers of an address. -/
def octets? (host : String) : Option (List Nat) :=
  ((Text.split '.' host).mapM octet?).filter (·.length = 4)

/-- Whether a host is given by a number of the longer form. -/
def isLongForm (host : String) : Bool :=
  host.toList.contains ':' &&
    host.toList.all fun c => c = ':' || c = '.' || (Text.hexValue? c).isSome

/-- Whether a host is known without asking anyone. -/
def isKnown (host : String) : Bool :=
  host = "localhost" || (octets? host).isSome || isLongForm host

/-- Connect to a port of a host. -/
def connect (host : String) (_ : Port) : Except IoFault Unit :=
  if isKnown host then .error .networkUnreachable else .error .unresolved

/-- Whether an address is the host's own. -/
def isOwn (host : String) : Bool :=
  host = "localhost" || host = "::" ||
    match octets? host with
    | some [127, _, _, _] => true
    | some ns => ns = [0, 0, 0, 0]
    | none => false

/-- Open a listener on an address; a port that another one holds is refused. -/
def listen (taken : List Port) (host : String) (port : Port) : Except IoFault Unit :=
  if !isKnown host then .error .unresolved
  else if !isOwn host then .error .addressNotAvailable
  else if port ≠ .any && taken.contains port then .error .addressInUse
  else .ok ()

end KernelGate.Network
