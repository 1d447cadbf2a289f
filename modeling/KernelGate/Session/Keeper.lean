import KernelGate.Config
import KernelGate.Session.FileStore

/-!
# The store that a configuration asks for

Records are kept in files if the configuration says so, else as long as the gateway lasts.
-/

namespace KernelGate

/-- Where records are kept. -/
inductive RecordKeeper where
  | memory (records : MemoryStore)
  | files (store : FileStore)

instance : SessionStore RecordKeeper where
  persist
    | .memory records, r => let (records, result) := SessionStore.persist records r
      (.memory records, result)
    | .files store, r => let (store, result) := SessionStore.persist store r
      (.files store, result)
  list
    | .memory records => let (records, result) := SessionStore.list records
      (.memory records, result)
    | .files store => let (store, result) := SessionStore.list store
      (.files store, result)
  remove
    | .memory records, id => let (records, result) := SessionStore.remove records id
      (.memory records, result)
    | .files store, id => let (store, result) := SessionStore.remove store id
      (.files store, result)

/-- The store that a configuration asks for. -/
def RecordKeeper.ofConfig (c : Config) (files : Files) : Result RecordKeeper :=
  if c.persistence then
    match FileStore.openAt files c.persistenceRoot with
    | .error cause => .error (.io cause)
    | .ok store => .ok (.files store)
  else .ok (.memory ∅)

end KernelGate
