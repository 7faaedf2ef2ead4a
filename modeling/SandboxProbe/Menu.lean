import SandboxProbe.Errno

/-!
# The menu of metadata calls

Twelve calls, each under one of two operations. A name asks for a call only together with the
operation that the call is under: `call?` is the menu as a lookup. How a requested call ended is an
`Outcome` by its cause, and a `Report` as the status, error number and message that a record shows.
-/

namespace SandboxProbe

/-- What a profile decides about: reading metadata, or writing it. -/
inductive Operation
  | readMetadata
  | write
  deriving DecidableEq, Repr

inductive MenuCall
  | lstat
  | getattrlist
  | setattrlist
  | fstat
  | chmod
  | utimes
  | fchmod
  | futimes
  | lchown
  | fchown
  | fchownat
  | lutimes
  deriving DecidableEq, Repr

namespace MenuCall

def all : List MenuCall :=
  [.lstat, .getattrlist, .setattrlist, .fstat, .chmod, .utimes, .fchmod, .futimes, .lchown, .fchown,
   .fchownat, .lutimes]

def name : MenuCall → String
  | .lstat => "lstat"
  | .getattrlist => "getattrlist"
  | .setattrlist => "setattrlist"
  | .fstat => "fstat"
  | .chmod => "chmod"
  | .utimes => "utimes"
  | .fchmod => "fchmod"
  | .futimes => "futimes"
  | .lchown => "lchown"
  | .fchown => "fchown"
  | .fchownat => "fchownat"
  | .lutimes => "lutimes"

def operation : MenuCall → Operation
  | .lstat | .getattrlist | .setattrlist | .fstat => .readMetadata
  | _ => .write

end MenuCall

namespace Operation

def all : List Operation := [.readMetadata, .write]

def word : Operation → String
  | .readMetadata => "file-read-metadata"
  | .write => "file-write*"

def ofWord? (s : String) : Option Operation :=
  all.find? (·.word = s)

def defaultCall : Operation → MenuCall
  | .readMetadata => .lstat
  | .write => .chmod

/-- The calls under an operation, in the order in which they are listed. -/
def menu (op : Operation) : List MenuCall :=
  MenuCall.all.filter (·.operation = op)

/-- The call that a name asks for under an operation. -/
def call? (op : Operation) (name : String) : Option MenuCall :=
  op.menu.find? (·.name = name)

end Operation

/-! ## Outcomes -/

inductive Status
  | ok
  | failed
  | offMenu
  | notConfined
  deriving DecidableEq, Repr

namespace Status

def all : List Status := [.ok, .failed, .offMenu, .notConfined]

def word : Status → String
  | .ok => "ok"
  | .failed => "op_failed"
  | .offMenu => "invalid_op"
  | .notConfined => "apply_failed"

end Status

structure Report where
  status : Status
  errno : Option Errno
  message : Option String
  deriving DecidableEq, Repr

inductive Outcome
  | done (call : MenuCall)
  | failed (errno : Errno)
  | openFailed (errno : Errno)
  | pathHoldsNul
  | offMenu (op : Operation) (syscall : String)
  deriving DecidableEq, Repr

def Outcome.report : Outcome → Report
  | .done call => ⟨.ok, none, some (call.name ++ "-ok")⟩
  | .failed e => ⟨.failed, some e, some e.text⟩
  | .openFailed e => ⟨.failed, some e, some "open failed"⟩
  | .pathHoldsNul => ⟨.failed, some .invalid, some "path contains NUL byte"⟩
  | .offMenu op syscall =>
    ⟨.offMenu, none, some ("unsupported " ++ op.word ++ " syscall " ++ syscall)⟩

end SandboxProbe
