import KernelGate.Toml.Value

/-!
# Trees under construction

The tables of a TOML document while it is read. A table remembers how it came about, since that
decides what may still be added to it: by a header of its own (`declared`), on the way to the
table of another header (`implied`), or by the points of a key (`dotted`).
-/

namespace KernelGate.Toml

/-- How a table came about. -/
inductive Origin where
  | declared
  | implied
  | dotted
  deriving DecidableEq, Repr, Inhabited

/-- An entry of a table under construction; fields stand in the order in which they came. -/
inductive Node where
  | value (v : Value)
  | table (origin : Origin) (fields : List (String × Node))
  /-- The elements of an array of tables, the last one first. -/
  | tables (elements : List (List (String × Node)))
  deriving Inhabited

/-- The fields of a table under construction. -/
abbrev Fields := List (String × Node)

namespace Fields

/-- The entry of a key. -/
def find? (fs : Fields) (key : String) : Option Node :=
  (List.find? (fun f => f.1 = key) fs).map (·.2)

/-- Put an entry at a key: in place of the one that is there, else behind all others. -/
def put (fs : Fields) (key : String) (n : Node) : Fields :=
  if fs.any (·.1 = key) then fs.map fun f => if f.1 = key then (key, n) else f
  else fs ++ [(key, n)]

/-- Change the fields of the table at a path. Tables that are missing come about as `origin`;
`pass` says which tables the path may lead through. An array of tables stands for its last
element. -/
def modifyAt? (origin : Origin) (pass : Origin → Bool)
    (change : Option Origin → Fields → Option Fields) :
    (path : List String) → (here : Option Origin) → Fields → Option Fields
  | [], here, fs => change here fs
  | key :: path, _, fs =>
    match fs.find? key with
    | none =>
      (modifyAt? origin pass change path (some origin) []).map fun inner =>
        fs.put key (.table origin inner)
    | some (.table o inner) =>
      if pass o then
        (modifyAt? origin pass change path (some o) inner).map fun inner =>
          fs.put key (.table o inner)
      else none
    | some (.tables (last :: others)) =>
      -- The last element has no origin, so nothing may be added to it by points.
      (modifyAt? origin pass change path none last).map fun last =>
        fs.put key (.tables (last :: others))
    | some (.tables []) => none
    | some (.value _) => none

/-- Open the table that a header names. -/
def openTable? (fs : Fields) (path : List String) (key : String) : Option Fields :=
  modifyAt? .implied (fun _ => true)
    (fun _ inner =>
      match inner.find? key with
      | none => some (inner.put key (.table .declared []))
      | some (.table .implied fields) => some (inner.put key (.table .declared fields))
      | some _ => none)
    path none fs

/-- Add an element to the array of tables that a header names. -/
def openElement? (fs : Fields) (path : List String) (key : String) : Option Fields :=
  modifyAt? .implied (fun _ => true)
    (fun _ inner =>
      match inner.find? key with
      | none => some (inner.put key (.tables [[]]))
      | some (.tables elements) => some (inner.put key (.tables ([] :: elements)))
      | some _ => none)
    path none fs

/-- Add a value under a dotted key: the tables on the way must not be declared, and the table that
takes the value must have come about by points too. -/
def assign? (fs : Fields) (path : List String) (key : String) (v : Value) : Option Fields :=
  modifyAt? .dotted (· ≠ .declared)
    (fun here inner =>
      if !path.isEmpty && here ≠ some .dotted then none
      else if (inner.find? key).isSome then none
      else some (inner.put key (.value v)))
    path none fs

/-- Add a value under a dotted key to the table that a header has opened. -/
def assignUnder? (fs : Fields) (header path : List String) (key : String) (v : Value) :
    Option Fields :=
  modifyAt? .implied (fun _ => true) (fun _ inner => inner.assign? path key v) header none fs

end Fields

/-! ## Finished trees -/

mutual

/-- The value of an entry. A table whose first key is the one of shown dates stands for the date;
none where that is no date. -/
def Node.value? : Node → Option Value
  | .value v => some v
  | .table _ fields => tableValue? fields
  | .tables elements => (elementValues? elements).map fun vs => .array vs.reverse

/-- The value of a table. -/
def tableValue? : List (String × Node) → Option Value
  | [] => some (.table [])
  | (key, n) :: rest =>
    if key = datetimeKey then
      match n with
      | .value (.text s) => (Datetime.read? s).map .datetime
      | _ => none
    else do
      let v ← n.value?
      let others ← fieldValues? rest
      some (.table (others.foldl (fun fs e => Entries.insert e.1 e.2 fs) [(key, v)]))

/-- The values of fields. -/
def fieldValues? : List (String × Node) → Option (List (String × Value))
  | [] => some []
  | (key, n) :: rest => do
    let v ← n.value?
    let others ← fieldValues? rest
    some ((key, v) :: others)

/-- The values of the elements of an array of tables. -/
def elementValues? : List (List (String × Node)) → Option (List Value)
  | [] => some []
  | fields :: rest => do
    let v ← tableValue? fields
    let others ← elementValues? rest
    some (v :: others)

end

end KernelGate.Toml
