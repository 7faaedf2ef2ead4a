import SandboxProbe.Host.Session

/-!
# Scripted hosts

A host whose answers are written down beforehand, by the name of the call, the path of the file or
the name of the symbol. It has no state of its own.
-/

namespace SandboxProbe

/-- The calls that a script gives a reply for. -/
inductive CallName
  | openFile
  | close
  | lstat
  | fstat
  | chmod
  | fchmod
  | utimes
  | lutimes
  | futimes
  | lchown
  | fchown
  | fchownat
  | sandboxApply
  | dlclose
  deriving DecidableEq, Repr

namespace CallName

def all : List CallName :=
  [.openFile, .close, .lstat, .fstat, .chmod, .fchmod, .utimes, .lutimes, .futimes, .lchown, .fchown,
   .fchownat, .sandboxApply, .dlclose]

def word : CallName → String
  | .openFile => "open"
  | .close => "close"
  | .lstat => "lstat"
  | .fstat => "fstat"
  | .chmod => "chmod"
  | .fchmod => "fchmod"
  | .utimes => "utimes"
  | .lutimes => "lutimes"
  | .futimes => "futimes"
  | .lchown => "lchown"
  | .fchown => "fchown"
  | .fchownat => "fchownat"
  | .sandboxApply => "sandbox_apply"
  | .dlclose => "dlclose"

end CallName

def FileCall.callName : FileCall → CallName
  | .openFile .. => .openFile
  | .close .. => .close
  | .lstat .. => .lstat
  | .fstat .. => .fstat
  | .chmod .. => .chmod
  | .fchmod .. => .fchmod
  | .utimes .. => .utimes
  | .lutimes .. => .lutimes
  | .futimes .. => .futimes
  | .lchown .. => .lchown
  | .fchown .. => .fchown
  | .fchownat .. => .fchownat

structure Script where
  errno : Errno
  pending : Option Bytes
  clock : Clock
  owner : Owner
  /-- The descriptor that a successful `open` returns. -/
  fd : Int32
  reply : CallName → Reply
  file : Bytes → Except Errno Bytes
  library : Lookup
  symbol : String → Lookup

namespace Script

/-- `open` fails by -1 alone; otherwise it returns the script's descriptor. -/
def fileReply (script : Script) (call : FileCall) : Reply :=
  let reply := script.reply call.callName
  match call with
  | .openFile .. => if reply.rc = -1 then reply else { reply with rc := script.fd }
  | _ => reply

def host (script : Script) : Host Unit where
  clock := script.clock
  owner := script.owner
  file call s := (script.fileReply call, s)
  contents path _ := script.file path
  library _ := script.library
  symbol := script.symbol
  sandboxApply _ := script.reply .sandboxApply
  dlclose := script.reply .dlclose

def session (script : Script) : Session Unit :=
  Session.start () script.errno script.pending

/-- Runs an action from the script's start. -/
def run {α : Type} (script : Script) (action : Host Unit → Action Unit α) : α × Session Unit :=
  (action script.host).run script.session

end Script

end SandboxProbe
