import KernelGate.Fault
import KernelGate.Kernel.Handle
import KernelGate.Kernel.Spec

/-!
# Calls to a launcher

A launcher is whatever runs kernels. The gateway asks it to launch a kernel, to see whether one is
alive, and to end one; each call takes its time and may fail.
-/

namespace KernelGate

/-- All that a launcher needs to start a kernel. -/
structure LaunchRequest where
  handle : KernelHandle
  spec : KernelSpec
  /-- The variables of the launch. -/
  env : Dict String
  deriving DecidableEq, Inhabited

/-- A call to a launcher. -/
inductive LauncherCall where
  | launch (request : LaunchRequest)
  | probe (kernel : KernelHandle)
  | terminate (kernel : KernelHandle)
  deriving DecidableEq, Inhabited

/-- The kernel that a call is about. -/
def LauncherCall.handle : LauncherCall → KernelHandle
  | .launch request => request.handle
  | .probe kernel => kernel
  | .terminate kernel => kernel

end KernelGate
