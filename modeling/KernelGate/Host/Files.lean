import KernelGate.Fault
import KernelGate.Dict
import KernelGate.Text.Cut

/-!
# Files

The files of a host: a tree of folders, and the operations on it with their failures. A path is
followed name by name; every name before the last must be that of a folder, and `..` leads back to
the folder above.

The tree is that of a host on which nothing stands in the gateway's way:

* names are `String`s, that is Unicode text, where a host may have names of any bytes;
* every plain file can be read and written, and every folder be listed and entered: there are no
  permissions, and no disk fills up or breaks;
* an entry is a plain file or a folder: there are no links, no pipes and no devices.

So an operation fails over what stands at its path or is missing there, over a path or a name that
is too long, and over a null character in it. What cannot be read as a file is a folder under the
file's name, or stands at too long a path.

Main statements: `Folder.find?_insert_self`, `Folder.find?_insert_of_ne` (a new entry changes what
its own name stands for, and nothing else).
-/

namespace KernelGate

/-- What stands under a name in a folder. -/
inductive FileEntry where
  | file (bytes : List UInt8)
  | folder (children : List (String × FileEntry))
  deriving Inhabited

/-- The entries of a folder, in ascending order of their names. -/
abbrev Folder := List (String × FileEntry)

/-- The names that lead from the top folder to an entry. -/
abbrev Place := List String

namespace Folder

/-- The entry at a place; the empty place is the folder itself. -/
def find? (f : Folder) : Place → Option FileEntry
  | [] => some (.folder f)
  | [name] => Entries.find? name f
  | name :: rest =>
    match Entries.find? name f with
    | some (.folder inner) => find? inner rest
    | _ => none

/-- Put an entry at a place whose folder exists. -/
def put (f : Folder) (e : FileEntry) : Place → Folder
  | [] => f
  | [name] => Entries.insert name e f
  | name :: rest =>
    match Entries.find? name f with
    | some (.folder inner) => Entries.insert name (.folder (put inner e rest)) f
    | _ => f

/-- Take away the entry at a place. -/
def remove (f : Folder) : Place → Folder
  | [] => f
  | [name] => f.filter (·.1 ≠ name)
  | name :: rest =>
    match Entries.find? name f with
    | some (.folder inner) => Entries.insert name (.folder (remove inner rest)) f
    | _ => f

end Folder

/-- The files of a host, and the folder that relative paths start from. -/
structure Files where
  top : Folder
  current : Place
  deriving Inhabited

/-- What a path leads to: an existing folder, or a name in one. -/
inductive PathEnd where
  | folder (place : Place)
  /-- A name in an existing folder; `asFolder` where the path says that it names a folder. -/
  | entry (place : Place) (name : String) (asFolder : Bool)
  deriving DecidableEq, Repr

namespace Files

/-- The greatest number of bytes of a name. -/
def maxName : Nat := 255

/-- The number of bytes that a path must stay below. -/
def maxPath : Nat := 4096

/-- The names of a path. -/
def names (path : String) : List String := Text.split '/' path

/-- A name that leads nowhere else. -/
def isHere (name : String) : Bool := name = "" || name = "."

/-- Follow names from a folder; all of them must be those of folders. -/
def follow (fs : Files) : Place → List String → Except IoFault Place
  | place, [] => .ok place
  | place, name :: rest =>
    if isHere name then follow fs place rest
    else if name = ".." then follow fs place.dropLast rest
    else if name.utf8ByteSize > maxName then .error .nameTooLong
    else
      match fs.top.find? (place ++ [name]) with
      | none => .error .noEntry
      | some (.file _) => .error .notDirectory
      | some (.folder _) => follow fs (place ++ [name]) rest

/-- What a path leads to. -/
def locate (fs : Files) (path : String) : Except IoFault PathEnd :=
  if path.toList.contains '\x00' then .error .nulInPath
  else if path = "" then .error .noEntry
  else if path.utf8ByteSize ≥ maxPath then .error .nameTooLong
  else
    let start := if path.toList.head? = some '/' then [] else fs.current
    let all := names path
    let real := all.filter fun n => !isHere n
    -- What the last name stands for is left open: it may be about to come into being.
    match real.getLast? with
    | none => .ok (.folder start)
    | some last =>
      if last = ".." then (fs.follow start real).map .folder
      else do
        let place ← fs.follow start real.dropLast
        if last.utf8ByteSize > maxName then .error .nameTooLong
        else .ok (.entry place last ((all.getLast?.map isHere).getD false))

/-- The bytes of a file. -/
def read (fs : Files) (path : String) : Except IoFault (List UInt8) := do
  match ← fs.locate path with
  | .folder _ => .error .isDirectory
  | .entry place name asFolder =>
    match fs.top.find? (place ++ [name]) with
    | none => .error .noEntry
    | some (.folder _) => .error .isDirectory
    | some (.file bytes) => if asFolder then .error .notDirectory else .ok bytes

/-- Write a file: a new one, or over the bytes of the one that is there. -/
def write (fs : Files) (path : String) (bytes : List UInt8) : Except IoFault Files := do
  match ← fs.locate path with
  | .folder _ => .error .isDirectory
  | .entry place name asFolder =>
    match fs.top.find? (place ++ [name]) with
    | some (.folder _) => .error .isDirectory
    | none =>
      if asFolder then .error .isDirectory
      else .ok { fs with top := fs.top.put (.file bytes) (place ++ [name]) }
    | some (.file _) =>
      if asFolder then .error .notDirectory
      else .ok { fs with top := fs.top.put (.file bytes) (place ++ [name]) }

/-- Give a file another name, in place of the file that has it. -/
def rename (fs : Files) (source target : String) : Except IoFault Files := do
  let bytes ← fs.read source
  match ← fs.locate source, ← fs.locate target with
  | .entry place name _, .entry place' name' asFolder =>
    match fs.top.find? (place' ++ [name']) with
    | some (.folder _) => .error .isDirectory
    | _ =>
      if asFolder then .error .notDirectory
      else
        -- Both names may be one and the same.
        let cleared := fs.top.remove (place ++ [name])
        .ok { fs with top := cleared.put (.file bytes) (place' ++ [name']) }
  | _, _ => .error .isDirectory

/-- Take away a file. -/
def remove (fs : Files) (path : String) : Except IoFault Files := do
  match ← fs.locate path with
  | .folder _ => .error .isDirectory
  | .entry place name asFolder =>
    match fs.top.find? (place ++ [name]) with
    | none => .error .noEntry
    | some (.folder _) => .error .isDirectory
    | some (.file _) =>
      if asFolder then .error .notDirectory
      else .ok { fs with top := fs.top.remove (place ++ [name]) }

/-- The names in a folder, in ascending order. -/
def list (fs : Files) (path : String) : Except IoFault (List String) := do
  let place ← match ← fs.locate path with
    | .folder place => .ok place
    | .entry place name _ => .ok (place ++ [name])
  match fs.top.find? place with
  | none => .error .noEntry
  | some (.file _) => .error .notDirectory
  | some (.folder children) => .ok (children.map (·.1))

/-- Whether a path leads to a folder. -/
def isFolder (fs : Files) (path : String) : Bool :=
  match fs.list path with
  | .ok _ => true
  | .error _ => false

/-- Make a folder in one that exists. -/
def makeFolder (fs : Files) (path : String) : Except IoFault Files := do
  match ← fs.locate path with
  | .folder _ => .error .alreadyExists
  | .entry place name _ =>
    match fs.top.find? (place ++ [name]) with
    | some _ => .error .alreadyExists
    | none => .ok { fs with top := fs.top.put (.folder []) (place ++ [name]) }

/-- The path of names that stand in reverse. -/
def pathOf (absolute : Bool) (reversed : List String) : String :=
  (if absolute then "/" else "") ++ Text.joinWith "/" reversed.reverse

/-- Make a folder that may be there already, and before it those above it that are missing. -/
def makeFolders (absolute : Bool) : (reversed : List String) → Files → Except IoFault Files
  | [], fs => .ok fs
  | name :: above, fs =>
    let path := pathOf absolute (name :: above)
    let settle := fun (fs : Files) (fault : IoFault) =>
      if fs.isFolder path then Except.ok fs else .error fault
    match fs.makeFolder path with
    | .ok fs => .ok fs
    | .error .noEntry => do
      let fs ← makeFolders absolute above fs
      match fs.makeFolder path with
      | .ok fs => .ok fs
      | .error fault => settle fs fault
    | .error fault => settle fs fault

/-- Make the folder of a path, and those above it that are missing. -/
def makePath (fs : Files) (path : String) : Except IoFault Files :=
  if path.toList.contains '\x00' then .error .nulInPath
  else
    let real := (names path).filter fun n => !isHere n
    makeFolders (path.toList.head? = some '/') real.reverse fs

/-- Take away what a path leads to, with all that is below it. -/
def removeAll (fs : Files) (path : String) : Except IoFault Files := do
  match ← fs.locate path with
  | .folder place => .ok { fs with top := fs.top.remove place }
  | .entry place name _ =>
    match fs.top.find? (place ++ [name]) with
    | none => .error .noEntry
    | some _ => .ok { fs with top := fs.top.remove (place ++ [name]) }

/-- A path below a folder; an absolute path stays as it is. -/
def join (folder path : String) : String :=
  if path.toList.head? = some '/' then path
  else if folder = "" then path
  else if folder.toList.getLast? = some '/' then folder ++ path
  else folder ++ "/" ++ path

end Files

/-! ## Lookups after writing -/

namespace Folder

theorem find?_insert_self (f : Folder) (name : String) (e : FileEntry) :
    Entries.find? name (Entries.insert name e f) = some e := by
  simp [Entries.find?_insert]

theorem find?_insert_of_ne (f : Folder) {name other : String} (e : FileEntry)
    (hne : other ≠ name) :
    Entries.find? other (Entries.insert name e f) = Entries.find? other f := by
  simp [Entries.find?_insert, hne]

end Folder

end KernelGate
