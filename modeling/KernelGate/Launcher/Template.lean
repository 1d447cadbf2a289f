import KernelGate.Kernel.Handle
import KernelGate.Text.Cut

/-!
# Commands with marks

The words of a spec's command may hold marks for the kernel's id, host, ports and user. The marks
are filled in one kind after the other, so a mark that stands in a value which was filled in before
is filled too. `fillOnce` is the plain reading: one pass over the word, which never looks at what it
put there.
-/

namespace KernelGate.KernelHandle

/-- The ports with commas between them. -/
def portList (h : KernelHandle) : String :=
  Text.joinWith "," (h.ports.map fun (p : Port) => Text.naturalText p.val)

/-- The marks and the values of a kernel, in the order in which they are filled in. -/
def marks (h : KernelHandle) : List (String × String) :=
  [("\x7bkernel_id\x7d", h.id), ("\x7bhost\x7d", h.host), ("\x7bports\x7d", h.portList),
    ("\x7busername\x7d", h.user)]

/-- A word of a command for a kernel. -/
def fill (h : KernelHandle) (word : String) : String :=
  h.marks.foldl (fun word mark => Text.replaceAll mark.1 mark.2 word) word

/-- A word of a command for a kernel, all marks filled in one pass. -/
def fillOnce (h : KernelHandle) (word : String) : String :=
  String.ofList
    (Text.replaceFrom (h.marks.map fun mark => (mark.1.toList, mark.2.toList)) 0 word.toList)

end KernelGate.KernelHandle
