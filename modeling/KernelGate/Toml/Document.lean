import KernelGate.Toml.Lexeme
import KernelGate.Toml.Tree

/-!
# TOML documents

Reading a whole document: values that hold others, assignments, table headers.
`parse?` gives the fields of the top-level table, or nothing for a text that is no TOML.
-/

namespace KernelGate.Toml

/-! ## Values that hold others -/

mutual

/-- A value; `depth` is how deep arrays and tables may still nest. -/
def scanValue : (fuel depth : Nat) → Scan Value
  | 0, _, _ => none
  | fuel + 1, depth, cs =>
    match cs with
    | '[' :: rest =>
      match depth with
      | 0 => none
      | depth + 1 => (scanItems fuel depth rest).map fun q => (.array q.1, q.2)
    | '\x7b' :: rest =>
      match depth with
      | 0 => none
      | depth + 1 => (scanFields fuel depth rest).bind fun q =>
          (tableValue? q.1).map fun v => (v, q.2)
    | _ => scanScalar? cs

/-- The items of an array, up to its closing bracket. -/
def scanItems : (fuel depth : Nat) → Scan (List Value)
  | 0, _, _ => none
  | fuel + 1, depth, cs =>
    match skipFiller cs.length cs with
    | ']' :: rest => some ([], rest)
    | cs => do
      let (v, rest) ← scanValue fuel depth cs
      match skipFiller rest.length rest with
      | ']' :: rest => some ([v], rest)
      | ',' :: rest =>
        let (vs, rest) ← scanItems fuel depth rest
        some (v :: vs, rest)
      | _ => none

/-- The fields of a table on one line, up to its closing brace. -/
def scanFields : (fuel depth : Nat) → Scan Fields
  | 0, _, _ => none
  | fuel + 1, depth, cs =>
    match skipSpace cs with
    | '\x7d' :: rest => some ([], rest)
    | cs => scanFieldsFrom fuel depth [] cs

/-- The fields of a table on one line behind those that have been read. -/
def scanFieldsFrom : (fuel depth : Nat) → Fields → Scan Fields
  | 0, _, _, _ => none
  | fuel + 1, depth, fs, cs => do
    let ((path, key), rest) ← scanKey? cs
    let rest ← scanMark? '=' rest
    let (v, rest) ← scanValue fuel depth (skipSpace rest)
    let fs ← fs.assign? path key v
    match skipSpace rest with
    | '\x7d' :: rest => some (fs, rest)
    | ',' :: rest => scanFieldsFrom fuel depth fs rest
    | _ => none

end

/-! ## Lines -/

/-- The part of a document that has been read. -/
structure Draft where
  root : Fields
  /-- The table that assignments go to. -/
  header : List String

/-- A table header, behind its opening bracket. -/
def scanHeader? (d : Draft) (cs : List Char) : Option (Draft × List Char) :=
  match cs with
  | '[' :: rest => do
    let ((path, key), rest) ← scanKey? rest
    let rest ← scanMark? ']' rest
    let rest ← scanMark? ']' rest
    let root ← d.root.openElement? path key
    let rest ← closeLine? rest
    some (⟨root, path ++ [key]⟩, rest)
  | _ => do
    let ((path, key), rest) ← scanKey? cs
    let rest ← scanMark? ']' rest
    let root ← d.root.openTable? path key
    let rest ← closeLine? rest
    some (⟨root, path ++ [key]⟩, rest)

/-- An assignment. -/
def scanAssignment? (d : Draft) (cs : List Char) : Option (Draft × List Char) := do
  let ((path, key), rest) ← scanKey? cs
  let rest ← scanMark? '=' rest
  let rest := skipSpace rest
  let (v, rest) ← scanValue (2 * rest.length + 4) (depthLimit - 1) rest
  let rest ← closeLine? rest
  let root ← d.root.assignUnder? d.header path key v
  some (⟨root, d.header⟩, rest)

/-- The lines of a document behind those that have been read. -/
def scanLinesFrom : (fuel : Nat) → Draft → List Char → Option Fields
  | 0, _, _ => none
  | fuel + 1, d, cs =>
    match skipSpace cs with
    | [] => some d.root
    | '#' :: rest => (closeLine? ('#' :: rest)).bind (scanLinesFrom fuel d)
    | '[' :: rest => (scanHeader? d rest).bind fun q => scanLinesFrom fuel q.1 q.2
    | cs =>
      match lineEnd? cs with
      | some rest => scanLinesFrom fuel d rest
      | none => (scanAssignment? d cs).bind fun q => scanLinesFrom fuel q.1 q.2

/-- The fields of a document; a byte order mark in front does not count. -/
def parse? (text : String) : Option Fields :=
  let cs := match text.toList with
    | '\ufeff' :: rest => rest
    | cs => cs
  scanLinesFrom (cs.length + 1) ⟨[], []⟩ cs

end KernelGate.Toml
