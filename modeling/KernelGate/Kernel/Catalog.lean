import KernelGate.Fault
import KernelGate.Kernel.Spec

/-!
# The catalog of kernel specs

The specs that a gateway offers, by name. A declared list makes a catalog if every spec has a
command and no name comes twice; otherwise the first spec that breaks a rule is named.
-/

namespace KernelGate

/-- Specs by name. -/
structure Catalog where
  specs : Dict KernelSpec
  deriving DecidableEq

namespace Catalog

/-- Add a spec that has a command and a new name. -/
def add (c : Catalog) (spec : KernelSpec) : Except ConfigFault Catalog :=
  if spec.argv.isEmpty then .error (.emptyCommand spec.name)
  else if c.specs.contains spec.name then .error .repeatedSpec
  else .ok ⟨c.specs.insert spec.name spec⟩

/-- The catalog of a declared list. -/
def ofSpecs (specs : List KernelSpec) : Except ConfigFault Catalog := specs.foldlM add ⟨∅⟩

/-- The spec of a name. -/
def get (c : Catalog) (name : String) : Except LookupFault KernelSpec :=
  match c.specs.get? name with
  | some spec => .ok spec
  | none => .error (.spec name)

/-- All specs in the order of their names. -/
def all (c : Catalog) : List KernelSpec := c.specs.values

end Catalog

end KernelGate
