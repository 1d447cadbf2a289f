import KernelGate.Fault
import KernelGate.Kernel.Handle

/-!
# Stores of session records

A store keeps records by their session, and lists them in ascending order of the sessions' names.
The plainest store is a dictionary, which never fails and forgets all when the gateway ends.
-/

namespace KernelGate

/-- A store of session records with a state of its own. -/
class SessionStore (σ : Type) where
  /-- Keep a record, in place of the one that its session has. -/
  persist : σ → SessionRecord → σ × Result Unit
  /-- All records, in ascending order of their sessions. -/
  list : σ → σ × Result (List SessionRecord)
  /-- Forget the record of a session, if it has one. -/
  remove : σ → String → σ × Result Unit

/-- The store that lasts as long as the gateway: records by session. -/
abbrev MemoryStore := Dict SessionRecord

instance : SessionStore MemoryStore where
  persist s r := (s.insert r.sessionId r, .ok ())
  list s := (s, .ok s.values)
  remove s id := (s.erase id, .ok ())

/-- Put records in order of their sessions; records of one session stay as they stand. -/
def SessionRecord.sort (rs : List SessionRecord) : List SessionRecord :=
  rs.mergeSort fun a b => a.sessionId ≤ b.sessionId

end KernelGate
