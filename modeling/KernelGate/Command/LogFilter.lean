import KernelGate.Text.Cut

/-!
# Log filters

A filter is a list of directives with commas between them. A directive gives a level to all lines
whose source starts with its target, or to all lines if it has none; of several, the one with the
longest target counts. A line is kept if its level is at least as grave.
-/

namespace KernelGate

/-- How grave a line is. -/
inductive LogLevel where
  | error
  | warn
  | info
  | debug
  | trace
  deriving DecidableEq, Repr, Inhabited

namespace LogLevel

/-- The number of a level; the graver, the smaller. -/
def rank : LogLevel → Nat
  | error => 1
  | warn => 2
  | info => 3
  | debug => 4
  | trace => 5

/-- The word for a level. -/
def word : LogLevel → String
  | error => "ERROR"
  | warn => "WARN"
  | info => "INFO"
  | debug => "DEBUG"
  | trace => "TRACE"

end LogLevel

/-- A directive: lines from the target are kept up to a level; zero keeps none. -/
structure LogDirective where
  target : String
  rank : Nat
  deriving DecidableEq, Repr, Inhabited

namespace LogDirective

/-- The rank that a word stands for. -/
def rank? (word : String) : Option Nat :=
  match String.ofList (word.toList.map Char.toLower) with
  | "off" => some 0
  | "error" => some 1
  | "warn" => some 2
  | "info" => some 3
  | "debug" => some 4
  | "trace" => some 5
  | _ =>
    match word.toList with
    | [c] => if '0' ≤ c && c ≤ '5' then some (c.toNat - 48) else none
    | _ => none

/-- Characters of a target. -/
def isTargetChar (c : Char) : Bool := c.isAlphanum || c = '_' || c = ':' || c = '-'

/-- The rank behind the sign of equality; without a word it is the greatest. -/
def ranked? : List Char → Option Nat
  | [] => some 5
  | '=' :: [] => some 5
  | '=' :: word => rank? (String.ofList word)
  | _ => none

/-- Read a directive; the inner option is empty for one that speaks of a span, which no line is
in. -/
def parse? (s : String) : Option (Option LogDirective) :=
  match rank? s with
  | some rank => some (some ⟨"", rank⟩)
  | none =>
    let cs := s.toList
    let target := cs.takeWhile isTargetChar
    match cs.dropWhile isTargetChar with
    | '[' :: rest =>
      match rest.dropWhile (· ≠ ']') with
      | _ :: behind => (ranked? behind).map fun _ => none
      | [] => none
    | behind =>
      if target.isEmpty then none
      else (ranked? behind).map fun rank => some ⟨String.ofList target, rank⟩

end LogDirective

/-- A filter. -/
abbrev LogFilter := List LogDirective

namespace LogFilter

/-- The filter that keeps errors only. -/
def errorsOnly : LogFilter := [⟨"", 1⟩]

/-- The filter of directives that have been read; of two with one target the later counts. -/
def ofDirectives (ds : List (Option LogDirective)) : LogFilter :=
  if ds.isEmpty then errorsOnly else (ds.filterMap id).reverse

/-- Read a filter in which every directive must make sense. -/
def parse? (s : String) : Option LogFilter :=
  if s = "" then some errorsOnly
  else ((Text.split ',' s).mapM LogDirective.parse?).map ofDirectives

/-- Read a filter; directives that make no sense are passed over. -/
def lenient (s : String) : LogFilter :=
  ofDirectives (((Text.split ',' s).filter (· ≠ "")).filterMap LogDirective.parse?)

/-- The filter of a run: the one that a variable asks for, or else one level for the gateway and
another for all else. -/
def choose (asked? : Option String) (level : String) : LogFilter :=
  match asked?.bind parse? with
  | some f => f
  | none => lenient ("info,kernel_gateway=" ++ level ++ ",tower_http=info")

/-- The directive that counts for a source: the longest target that it starts with. -/
def directive? (f : LogFilter) (source : String) : Option LogDirective :=
  f.foldl (fun best? d =>
    if !source.startsWith d.target then best?
    else
      match best? with
      | some best => if best.target.length < d.target.length then some d else best?
      | none => some d) none

/-- Whether a line is kept. -/
def keeps (f : LogFilter) (source : String) (level : LogLevel) : Bool :=
  match f.directive? source with
  | some d => level.rank ≤ d.rank
  | none => false

end LogFilter

end KernelGate
