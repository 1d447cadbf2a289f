import KernelGate.Host.Files
import KernelGate.Kernel.Codec
import KernelGate.Session.Store

/-!
# Session records in files

One file for each session in a folder, holding the record as JSON. A record is written to a file
beside it first and then given its name, so a reader never sees a part of it. Files that do not
hold a record are passed over when the records are listed.
-/

namespace KernelGate

/-- A store in a folder of the host's files. -/
structure FileStore where
  files : Files
  /-- The path of the folder. -/
  root : String
  deriving Inhabited

namespace FileStore

/-- The store in a folder; the folder is made if it is missing. -/
def openAt (files : Files) (root : String) : Except IoFault FileStore :=
  (files.makePath root).map fun files => ⟨files, root⟩

/-- The path of a session's record. -/
def recordPath (s : FileStore) (session : String) : String := Files.join s.root (session ++ ".json")

/-- The path where a session's record is written first. -/
def draftPath (s : FileStore) (session : String) : String :=
  Files.join s.root ("." ++ session ++ ".tmp")

/-- Whether a name is that of a record: it ends in `.json` and has something in front of it. -/
def isRecordName (name : String) : Bool :=
  name.endsWith ".json" && name ≠ ".json"

/-- Write a record and give it its name. -/
def persist (s : FileStore) (r : SessionRecord) : FileStore × Result Unit :=
  match s.files.write (s.draftPath r.sessionId) r.bytes with
  | .error cause => (s, .error (.io cause))
  | .ok files =>
    -- A draft that cannot be given its name stays where it is.
    match files.rename (s.draftPath r.sessionId) (s.recordPath r.sessionId) with
    | .error cause => ({ s with files }, .error (.io cause))
    | .ok files => ({ s with files }, .ok ())

/-- The record that a file holds, if it can be read. -/
def recordIn? (s : FileStore) (name : String) : Option SessionRecord :=
  match s.files.read (Files.join s.root name) with
  | .error _ => none
  | .ok bytes => (SessionRecord.decoder.readBytes bytes).toOption

/-- All records that can be read. -/
def list (s : FileStore) : Result (List SessionRecord) :=
  match s.files.list s.root with
  | .error cause => .error (.io cause)
  | .ok names => .ok (SessionRecord.sort ((names.filter isRecordName).filterMap s.recordIn?))

/-- Take away the file of a session's record, if there is one. -/
def remove (s : FileStore) (session : String) : FileStore × Result Unit :=
  match s.files.remove (s.recordPath session) with
  | .ok files => ({ s with files }, .ok ())
  | .error .noEntry => (s, .ok ())
  | .error cause => (s, .error (.io cause))

end FileStore

instance : SessionStore FileStore where
  persist := FileStore.persist
  list s := (s, s.list)
  remove := FileStore.remove

end KernelGate
