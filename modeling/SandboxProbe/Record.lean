import SandboxProbe.Json.Basic
import SandboxProbe.Menu
import SandboxProbe.Profile.Basic

/-!
# Result records

The one record that a run leaves on standard output: what was asked for, how putting the profile in
force ended, and how the call ended. Every field is always there, null where it has no value.
-/

namespace SandboxProbe

/-- What was asked for, as a record repeats it. -/
structure Target where
  op : String
  path : String
  syscall : String
  payload : Option String
  deriving DecidableEq, Repr

structure VerdictRecord where
  rc : Int32
  errno : Option Errno
  errnoName : Option String
  message : Option String
  kind : ProfileKind
  deriving DecidableEq, Repr

structure Record where
  op : String
  path : String
  syscall : String
  payload : Option String
  status : Status
  errno : Option Errno
  errnoName : Option String
  message : Option String
  verdict : VerdictRecord
  deriving DecidableEq, Repr

def Verdict.record (v : Verdict) : VerdictRecord :=
  ⟨v.rc, v.errno, v.errno.map Errno.name, v.message, v.kind⟩

/-- What is reported where the profile is not in force and no call was made. -/
def Verdict.report (v : Verdict) : Report :=
  ⟨.notConfined, none, some ("sandbox apply rc " ++ Errno.decimal v.rc)⟩

def Record.ofReport (target : Target) (verdict : Verdict) (report : Report) : Record where
  op := target.op
  path := target.path
  syscall := target.syscall
  payload := target.payload
  status := report.status
  errno := report.errno
  errnoName := report.errno.map Errno.name
  message := report.message
  verdict := verdict.record

/-! ## The printed form -/

def Errno.toJson (e : Errno) : Json :=
  .number e.code.toInt

def VerdictRecord.toJson (r : VerdictRecord) : Json :=
  .object
    [("rc", .number r.rc.toInt),
     ("errno", Json.ofOption Errno.toJson r.errno),
     ("errno_name", Json.ofOption .string r.errnoName),
     ("message", Json.ofOption .string r.message),
     ("mode", .string r.kind.word)]

namespace Record

def toJson (r : Record) : Json :=
  .object
    [("op", .string r.op),
     ("path", .string r.path),
     ("syscall", .string r.syscall),
     ("attr_payload", Json.ofOption .string r.payload),
     ("status", .string r.status.word),
     ("errno", Json.ofOption Errno.toJson r.errno),
     ("errno_name", Json.ofOption .string r.errnoName),
     ("message", Json.ofOption .string r.message),
     ("apply", r.verdict.toJson)]

/-- The text of a record: one JSON object with its keys in order. -/
def render (r : Record) : String :=
  r.toJson.sortKeys.pretty

/-- The text as it is printed, with its line end. -/
def printed (r : Record) : String :=
  r.render ++ "\n"

end Record

end SandboxProbe
