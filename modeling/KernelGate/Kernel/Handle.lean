import KernelGate.Dict
import KernelGate.Port.Range

/-!
# Kernels and the records of their sessions

A handle names a running kernel and says where it is reached. A record is what is kept of a
kernel's session, so that a later run of the gateway can take the kernel over.
-/

namespace KernelGate

/-- A running kernel. -/
structure KernelHandle where
  id : String
  /-- The name of its spec. -/
  name : String
  /-- The user who owns it. -/
  user : String
  host : String
  ports : List Port
  deriving DecidableEq, Inhabited

/-- What a client says about the kernel that it starts. -/
structure LaunchParams where
  env : Dict String
  deriving DecidableEq, Inhabited

/-- The variable that names the user. -/
def userVariable : String := "KERNEL_USERNAME"

namespace LaunchParams

/-- Nothing said. -/
def silent : LaunchParams := ⟨∅⟩

/-- The parameters of a launch for a user. -/
def forUser (user : String) : LaunchParams := ⟨(∅ : Dict String).insert userVariable user⟩

/-- The user that the client names. -/
def user? (p : LaunchParams) : Option String := (p.env.get? userVariable).filter (· ≠ "")

end LaunchParams

/-- What is kept of a kernel's session. -/
structure SessionRecord where
  sessionId : String
  kernel : KernelHandle
  params : LaunchParams
  deriving DecidableEq, Inhabited

/-- What clients see of a kernel. -/
structure KernelModel where
  id : String
  name : String
  owner : String
  deriving DecidableEq, Inhabited

/-- What clients see of a kernel. -/
def KernelHandle.model (h : KernelHandle) : KernelModel := ⟨h.id, h.name, h.user⟩

/-- A client's wish to start a kernel: of a named kind or of the default one. -/
structure StartRequest where
  name? : Option String
  env : Dict String
  deriving DecidableEq, Inhabited

end KernelGate
