import KernelGate.Config
import KernelGate.Host.Network

/-!
# The listener of a gateway

What opening the listener comes to: the address must be known, the files for TLS must be readable
and hold what their names say, and the port must be free.
-/

namespace KernelGate

namespace Listener

/-- Whether a text has a section of a kind. -/
def hasSection (kind : String) (bytes : List UInt8) : Bool :=
  (Text.cutAt? ("-----BEGIN " ++ kind ++ "-----") (String.ofList (bytes.map fun b =>
    Char.ofNat b.toNat))).isSome

/-- A way to read files. -/
abbrev FileReader := String → Except IoFault (List UInt8)

/-- Read a file for TLS. -/
def readPem (read : FileReader) (path : String) : Except IoFault (List UInt8) :=
  (read path).mapError (IoFault.atReading path)

/-- The kinds of sections that hold a private key. -/
def keyKinds : List String := ["PRIVATE KEY", "RSA PRIVATE KEY", "EC PRIVATE KEY"]

/-- Read the certificate and the key for TLS. -/
def readTls (read : FileReader) (certFile keyFile : String) : Except IoFault Unit := do
  let cert ← readPem read certFile
  let key ← readPem read keyFile
  if !keyKinds.any fun kind => hasSection kind key then
    throw (.other "private key format not supported")
  if !hasSection "CERTIFICATE" cert then
    throw (.other "peer sent no certificates")

/-- Open the listener that a configuration describes, on a host where some ports are taken. -/
def bind (c : Config) (read : FileReader) (taken : List Port) : Result Unit :=
  Except.mapError Fault.io do
    if !Network.isKnown c.ip then throw .unresolved
    match c.certFile?, c.keyFile? with
    | some certFile, some keyFile => readTls read certFile keyFile
    | _, _ => pure ()
    Network.listen taken c.ip c.port

end Listener

end KernelGate
