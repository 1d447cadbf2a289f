import KernelGate.Dict

/-!
# Kernel specs

How to launch one kind of kernel.
-/

namespace KernelGate

/-- How to launch one kind of kernel. -/
structure KernelSpec where
  name : String
  displayName : String
  language : String
  /-- The command; marks in it stand for the data of the kernel that is launched. -/
  argv : List String
  /-- Variables for the kernel's process. -/
  env : Dict String
  deriving DecidableEq, Inhabited

/-- The spec of a gateway that declares none. -/
def KernelSpec.python : KernelSpec where
  name := "python3"
  displayName := "Python 3"
  language := "python"
  argv := ["python3", "-m", "ipykernel_launcher", "--ip", "\x7bhost\x7d", "--shell=\x7bports\x7d"]
  env := ∅

end KernelGate
