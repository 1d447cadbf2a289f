import KernelGate.Setting
import KernelGate.Text.Decimal

/-!
# Faults

What can go wrong, by kind and by cause. A cause keeps the data that its text names; the wording
stands in the `message` functions and nowhere else. A fault that a launcher or a store outside the
library reports brings its own text (`other`).
-/

namespace KernelGate

/-- Failures of files, processes and connections. -/
inductive IoFault where
  | noEntry
  | accessDenied
  | alreadyExists
  | notDirectory
  | isDirectory
  | nameTooLong
  | addressInUse
  | addressNotAvailable
  | networkUnreachable
  | connectionRefused
  | invalidArgument
  /-- A failure that has no number. -/
  | other (text : String)
  deriving DecidableEq, Repr, Inhabited

namespace IoFault

/-- The number of a failure. -/
def code? : IoFault → Option Nat
  | noEntry => some 2
  | accessDenied => some 13
  | alreadyExists => some 17
  | notDirectory => some 20
  | isDirectory => some 21
  | invalidArgument => some 22
  | nameTooLong => some 36
  | addressInUse => some 98
  | addressNotAvailable => some 99
  | networkUnreachable => some 101
  | connectionRefused => some 111
  | other _ => none

/-- The words of a failure. -/
def words : IoFault → String
  | noEntry => "No such file or directory"
  | accessDenied => "Permission denied"
  | alreadyExists => "File exists"
  | notDirectory => "Not a directory"
  | isDirectory => "Is a directory"
  | invalidArgument => "Invalid argument"
  | nameTooLong => "File name too long"
  | addressInUse => "Address already in use"
  | addressNotAvailable => "Cannot assign requested address"
  | networkUnreachable => "Network is unreachable"
  | connectionRefused => "Connection refused"
  | other text => text

/-- The words, and the number if there is one. -/
def message (f : IoFault) : String :=
  match f.code? with
  | some n => f.words ++ " (os error " ++ Text.naturalText n ++ ")"
  | none => f.words

/-- Text that is not UTF-8. -/
def notUtf8 : IoFault := other "stream did not contain valid UTF-8"

/-- A path with the character that ends names inside the system. -/
def nulInPath : IoFault := other "file name contained an unexpected NUL byte"

/-- A command word with the character that ends words inside the system. -/
def nulInWord : IoFault := other "nul byte found in provided data"

/-- A file that cannot be read, where its path is part of the words. -/
def atReading (path : String) (cause : IoFault) : IoFault :=
  other ("failed to read from file `" ++ path ++ "`: " ++ cause.message)

/-- A host name that nothing resolves. -/
def unresolved : IoFault :=
  other "failed to lookup address information: Temporary failure in name resolution"

end IoFault

/-- Settings and options that make no sense. -/
inductive ConfigFault where
  | unknownSetting (name : String)
  | malformedAssignment (text : String)
  | notInteger (setting text : String)
  | wrongKind (setting : String) (expected : SettingKind) (shown : String)
  | wrongReading (setting : String) (expected : SettingKind) (shown : String)
  | invertedRange (lower upper : Nat)
  | malformedRange (text : String)
  | malformedPort (range part : String)
  | halfTls
  | portOutOfRange (value : Int)
  | negative (setting : String)
  | unreadableFile (path : String) (cause : IoFault)
  | undecodableFile
  | prespawnAboveMax (prespawn max : Nat)
  | emptyCommand (spec : String)
  | repeatedSpec
  | unknownApi (name available : String)
  | unknownDefaultKernel (name : String)
  | other (text : String)
  deriving DecidableEq, Repr, Inhabited

def ConfigFault.message : ConfigFault → String
  | .unknownSetting name => "unknown setting '" ++ name ++ "'"
  | .malformedAssignment text => "expected name=value, got '" ++ text ++ "'"
  | .notInteger setting text => "setting '" ++ setting ++ "': '" ++ text ++ "' is not an integer"
  | .wrongKind setting expected shown =>
    "setting '" ++ setting ++ "' expects a " ++ expected.word ++ ", got '" ++ shown ++ "'"
  | .wrongReading setting expected shown =>
    "setting '" ++ setting ++ "' expects a " ++ expected.word ++ ", resolved " ++ shown
  | .invertedRange lower upper =>
    "invalid port range '" ++ Text.naturalText lower ++ ".." ++ Text.naturalText upper ++
      "': lower bound exceeds upper bound"
  | .malformedRange text => "invalid port range '" ++ text ++ "': expected lower..upper"
  | .malformedPort range part =>
    "invalid port range '" ++ range ++ "': '" ++ part ++ "' is not a port"
  | .halfTls => "certfile and keyfile must be set together"
  | .portOutOfRange value => "port " ++ Text.decimal value ++ " is out of range"
  | .negative setting => "setting '" ++ setting ++ "' must not be negative"
  | .unreadableFile path cause => "cannot read " ++ path ++ ": " ++ cause.message
  | .undecodableFile => "parse error"
  | .prespawnAboveMax prespawn max =>
    "cannot prespawn " ++ Text.naturalText prespawn ++ "; more than max kernels " ++
      Text.naturalText max
  | .emptyCommand spec => "kernel spec '" ++ spec ++ "' has an empty argv"
  | .repeatedSpec => "duplicate kernel spec name"
  | .unknownApi name available => "unknown api '" ++ name ++ "'; available: " ++ available
  | .unknownDefaultKernel name =>
    "default kernel '" ++ name ++ "' is not a known kernel spec"
  | .other text => text

/-- Limits that a launch would break. -/
inductive QuotaFault where
  | gatewayFull (max : Nat)
  | userFull (user : String) (max : Int)
  | other (text : String)
  deriving DecidableEq, Repr, Inhabited

def QuotaFault.message : QuotaFault → String
  | .gatewayFull max =>
    "gateway is running the maximum of " ++ Text.naturalText max ++ " kernels"
  | .userFull user max =>
    "user '" ++ user ++ "' has reached the maximum of " ++ Text.decimal max ++ " active kernels"
  | .other text => text

/-- Kernels that cannot be taken over or are gone. -/
inductive RecoveryFault where
  | exited (kernel status : String)
  | noPorts (kernel : String)
  | unreachable (kernel host : String) (port : Nat) (cause : IoFault)
  | timedOut
  | other (text : String)
  deriving DecidableEq, Repr, Inhabited

def RecoveryFault.message : RecoveryFault → String
  | .exited kernel status => "kernel " ++ kernel ++ " exited with " ++ status
  | .noPorts kernel => "kernel " ++ kernel ++ " has no transport ports"
  | .unreachable kernel host port cause =>
    "kernel " ++ kernel ++ " unreachable at " ++ host ++ ":" ++ Text.naturalText port ++ ": " ++
      cause.message
  | .timedOut => "reattach timed out"
  | .other text => text

/-- Things asked for that do not exist. -/
inductive LookupFault where
  | kernel (id : String)
  | spec (name : String)
  | other (text : String)
  deriving DecidableEq, Repr, Inhabited

def LookupFault.message : LookupFault → String
  | .kernel id => "no such kernel: " ++ id
  | .spec name => "no such kernel spec: " ++ name
  | .other text => text

/-- Kernels that cannot be started or stopped. -/
inductive LaunchFault where
  | rangeTooSmall (range : String) (count : Nat)
  | rangeExhausted (range : String) (attempts : Nat)
  | noCommand (spec : String)
  | spawnFailed (program : String) (cause : IoFault)
  | notOurs (kernel : String)
  | killFailed (kernel : String) (cause : IoFault)
  | other (text : String)
  deriving DecidableEq, Repr, Inhabited

def LaunchFault.message : LaunchFault → String
  | .rangeTooSmall range count =>
    "port range " ++ range ++ " cannot supply " ++ Text.naturalText count ++ " ports"
  | .rangeExhausted range attempts =>
    "no free port found in range " ++ range ++ " after " ++ Text.naturalText attempts ++
      " attempts"
  | .noCommand spec => "kernel spec '" ++ spec ++ "' has no command"
  | .spawnFailed program cause => "failed to spawn '" ++ program ++ "': " ++ cause.message
  | .notOurs kernel =>
    "kernel " ++ kernel ++ " was not started by this process and cannot be stopped"
  | .killFailed kernel cause => "failed to kill kernel " ++ kernel ++ ": " ++ cause.message
  | .other text => text

/-- Operations that do not fit the phase of the gateway's life. -/
inductive PhaseFault where
  | cannotStart (phase : String)
  | cannotServe (phase : String)
  | other (text : String)
  deriving DecidableEq, Repr, Inhabited

def PhaseFault.message : PhaseFault → String
  | .cannotStart phase => "cannot initialize from " ++ phase
  | .cannotServe phase => "cannot serve from " ++ phase
  | .other text => text

/-- Why a JSON text does not decode: it is no JSON, or it says something else than expected. -/
inductive JsonFault where
  | malformed
  | unexpected
  deriving DecidableEq, Repr, Inhabited

def JsonFault.message : JsonFault → String
  | .malformed => "malformed JSON"
  | .unexpected => "unexpected JSON value"

/-- What can go wrong. -/
inductive Fault where
  | configuration (cause : ConfigFault)
  | unauthorized (user : String)
  | quotaExceeded (cause : QuotaFault)
  | recovery (cause : RecoveryFault)
  | capabilityMissing (text : String)
  | notFound (cause : LookupFault)
  | launch (cause : LaunchFault)
  | phase (cause : PhaseFault)
  | io (cause : IoFault)
  | serialization (cause : JsonFault)
  deriving DecidableEq, Repr, Inhabited

namespace Fault

/-- The text of a fault. -/
def message : Fault → String
  | configuration cause => "configuration error: " ++ cause.message
  | unauthorized user => "user '" ++ user ++ "' is not authorized to start kernels"
  | quotaExceeded cause => "quota exceeded: " ++ cause.message
  | recovery cause => "session recovery failed: " ++ cause.message
  | capabilityMissing text => "capability missing: " ++ text
  | notFound cause => "not found: " ++ cause.message
  | launch cause => "launch error: " ++ cause.message
  | phase cause => "invalid lifecycle state: " ++ cause.message
  | io cause => "io error: " ++ cause.message
  | serialization cause => "serialization error: " ++ cause.message

end Fault

/-! ## Results -/

/-- The result of an operation that can fail. -/
abbrev Result (α : Type) := Except Fault α

theorem ok_bind {ε α β : Type} (a : α) (f : α → Except ε β) : (Except.ok a >>= f) = f a := rfl

theorem bind_eq_ok_iff {ε α β : Type} {x : Except ε α} {f : α → Except ε β} {b : β} :
    (x >>= f) = .ok b ↔ ∃ a, x = .ok a ∧ f a = .ok b := by
  constructor
  · intro h
    cases x with
    | error e => cases h
    | ok a => exact ⟨a, rfl, h⟩
  · rintro ⟨a, rfl, h⟩
    exact h

/-- What succeeds gives what it succeeds with. -/
theorem eq_ok_get {ε α : Type} {x : Except ε α} (h : x.toOption.isSome = true) :
    x = .ok (x.toOption.get h) := by
  cases x with
  | error e => cases h
  | ok a => rfl

end KernelGate
