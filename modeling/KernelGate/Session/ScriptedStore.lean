import KernelGate.Session.Keeper

/-!
# Stores with a script

A store whose operations can be made to fail, over one that keeps the records. What it was asked is
kept on record, also where it fails.
-/

namespace KernelGate

/-- Which operations fail, and with what words. -/
structure StoreScript where
  persistFails? : Option String
  listFails? : Option String
  removeFails? : Option String
  deriving DecidableEq, Repr, Inhabited

/-- A store with a script: the sessions that it was asked to keep and to forget. -/
structure ScriptedStore where
  keeper : RecordKeeper
  script : StoreScript
  persisted : List String
  removed : List String

namespace ScriptedStore

/-- A store that follows a script from now on. -/
def new (keeper : RecordKeeper) (script : StoreScript) : ScriptedStore := ⟨keeper, script, [], []⟩

instance : SessionStore ScriptedStore where
  persist s r :=
    let s := { s with persisted := s.persisted ++ [r.sessionId] }
    match s.script.persistFails? with
    | some text => (s, .error (.io (.other text)))
    | none =>
      let (keeper, result) := SessionStore.persist s.keeper r
      ({ s with keeper }, result)
  list s :=
    match s.script.listFails? with
    | some text => (s, .error (.io (.other text)))
    | none =>
      let (keeper, result) := SessionStore.list s.keeper
      ({ s with keeper }, result)
  remove s id :=
    let s := { s with removed := s.removed ++ [id] }
    match s.script.removeFails? with
    | some text => (s, .error (.io (.other text)))
    | none =>
      let (keeper, result) := SessionStore.remove s.keeper id
      ({ s with keeper }, result)

/-- An operation on the records themselves, past the script. -/
def onKeeper {α : Type} (s : ScriptedStore) (f : RecordKeeper → RecordKeeper × α) :
    ScriptedStore × α :=
  let (keeper, a) := f s.keeper
  ({ s with keeper }, a)

end ScriptedStore

end KernelGate
