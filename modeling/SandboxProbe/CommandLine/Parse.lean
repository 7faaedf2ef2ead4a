import SandboxProbe.CommandLine.Basic
import SandboxProbe.Request

/-!
# Reading the command line

Arguments are read from left to right, and the first fault found ends the reading. A value in an
argument of its own waits: it is checked when the next known flag comes, or at the end. What is out
of place before that comes first. Every occurrence of a flag is checked, and the last one of each counts.
-/

namespace SandboxProbe.CommandLine

/-! ## Settings: the values of flags after their check -/

inductive Setting
  | sbpl (path : Bytes)
  | blob (path : Bytes)
  | op (op : Operation)
  | path (path : String)
  | syscall (name : String)
  | payload (kind : PayloadKind)
  | mode (mode : UInt32)
  deriving DecidableEq, Repr

/-- A value that has to be one of a list of words. -/
def wordValue {α : Type} (flag : Flag) (ofWord? : String → Option α) (value : Bytes) :
    Except Refusal α :=
  if value = [] then .error (.missingValue flag)
  else
    match (Text.Utf8.decode? value).bind ofWord? with
    | some a => .ok a
    | none => .error (.invalidValue flag (Text.Utf8.lossy value))

def fileValue (flag : Flag) (value : Bytes) : Except Refusal Bytes :=
  if value = [] then .error (.missingValue flag) else .ok value

def textValue (value : Bytes) : Except Refusal String :=
  match Text.Utf8.decode? value with
  | some s => .ok s
  | none => .error .notUtf8

def modeValue (value : Bytes) : Except Refusal UInt32 := do
  let s ← textValue value
  (Text.Octal.read s).mapError (.invalidMode s)

/-- Checks the value of one occurrence of a flag. -/
def Flag.check : Flag → Bytes → Except Refusal Setting
  | .sbpl, v => return .sbpl (← fileValue .sbpl v)
  | .blob, v => return .blob (← fileValue .blob v)
  | .op, v => return .op (← wordValue .op Operation.ofWord? v)
  | .path, v => return .path (← textValue v)
  | .syscall, v => return .syscall (← textValue v)
  | .payload, v => return .payload (← wordValue .payload PayloadKind.ofWord? v)
  | .mode, v => return .mode (← modeValue v)

namespace Setting

def sbpl? : Setting → Option Bytes
  | .sbpl v => some v
  | _ => none

def blob? : Setting → Option Bytes
  | .blob v => some v
  | _ => none

def op? : Setting → Option Operation
  | .op v => some v
  | _ => none

def path? : Setting → Option String
  | .path v => some v
  | _ => none

def syscall? : Setting → Option String
  | .syscall v => some v
  | _ => none

def payload? : Setting → Option PayloadKind
  | .payload v => some v
  | _ => none

def mode? : Setting → Option UInt32
  | .mode v => some v
  | _ => none

/-- The last setting of one kind. -/
def last {α : Type} (kind : Setting → Option α) (settings : List Setting) : Option α :=
  (settings.filterMap kind).getLast?

end Setting

/-- A text profile wins over a blob, wherever they stand. -/
def profileOf (settings : List Setting) : Option Profile :=
  ((Setting.last Setting.sbpl? settings).map Profile.text).or
    ((Setting.last Setting.blob? settings).map Profile.blob)

def defaultMode : UInt32 := 0o640

/-- The request that settings add up to, if none that it needs is missing. -/
def requestOf (settings : List Setting) : Option Request := do
  let profile ← profileOf settings
  let op ← Setting.last Setting.op? settings
  let path ← Setting.last Setting.path? settings
  return {
    profile, op, path
    syscall := (Setting.last Setting.syscall? settings).getD op.defaultCall.name
    payload := Setting.last Setting.payload? settings
    mode := (Setting.last Setting.mode? settings).getD defaultMode }

/-! ## Arguments one after the other -/

/-- What waits: nothing, a flag for its value, or a value for its check. -/
inductive Waiting
  | nothing
  | value (flag : Flag)
  | check (flag : Flag) (value : Bytes)
  deriving DecidableEq, Repr

/-- Settles what waits. -/
def Waiting.finish : Waiting → Except Refusal (List Setting)
  | .nothing => .ok []
  | .value flag => .error (.missingValue flag)
  | .check flag v => (flag.check v).map ([·])

def scan : Waiting → List Bytes → Except Refusal (List Setting)
  | w, [] => w.finish
  | w, arg :: rest =>
    match Argument.ofBytes arg with
    | .endOfFlags =>
      match rest with
      | [] => w.finish
      | stray :: _ => .error (.unexpectedArgument (Text.Utf8.lossy stray))
    | .unknown shown => .error (.unexpectedArgument shown)
    | .valuedHelp v => .error (.valueForHelp (Text.Utf8.lossy v))
    | .help => do
      let _ ← w.finish
      .error .help
    | .flag flag none => do
      let settled ← w.finish
      return settled ++ (← scan (.value flag) rest)
    | .flag flag (some v) => do
      let settled ← w.finish
      let setting ← flag.check v
      return settled ++ setting :: (← scan .nothing rest)
    | .plain v =>
      match w with
      | .value flag => scan (.check flag v) rest
      | _ => .error (.unexpectedArgument (Text.Utf8.lossy v))

/-- The request that a command line makes. Its first argument names the program. -/
def parse (argv : List Bytes) : Except Refusal Request := do
  match requestOf (← scan .nothing argv.tail) with
  | some request => return request
  | none => .error .missingFlags

end SandboxProbe.CommandLine
