import SandboxProbe.Attributes
import SandboxProbe.Profile.Enforce
import SandboxProbe.Record

/-!
# Requests

A request names a profile and one metadata call. Fulfilling it puts the profile in force first, and
makes the call only if the profile holds. Whatever happens on the way ends in a record.

Each menu entry is one call on a path, or one call on a descriptor that is opened for it and closed
after it. `errno` is reset before every call and read right after a failed one, so what an outcome
shows is what its own call set.
-/

namespace SandboxProbe

variable {σ : Type}

/-! ## Issuing a call -/

/-- What the outcome is, right after the call returned `rc`. -/
def conclude (call : MenuCall) (rc : Int32) : Action σ Outcome := do
  if rc = 0 then return .done call else return .failed (← Action.readErrno)

/-- The one call of an entry that works on a path. -/
def onPath (host : Host σ) (call : MenuCall) (request : FileCall) : Action σ Outcome := do
  Action.resetErrno
  conclude call (← host.fileCall request)

/-- The calls of an entry that works on a descriptor. -/
def onDescriptor (host : Host σ) (call : MenuCall) (path : Bytes) (access : Access)
    (request : Int32 → FileCall) : Action σ Outcome := do
  Action.resetErrno
  let fd ← host.fileCall (.openFile path access)
  if fd = -1 then
    return .openFailed (← Action.readErrno)
  else
    let outcome ← onPath host call (request fd)
    let _ ← host.fileCall (.close fd)
    return outcome

namespace MenuCall

/-- Issues an entry's calls on a path without NUL. Attribute lists are not supported here. -/
def issueCalls (host : Host σ) (mode : UInt32) (path : Bytes) (call : MenuCall) :
    Action σ Outcome :=
  let times := Times.now host.clock
  match call with
  | .lstat => onPath host call (.lstat path)
  | .getattrlist | .setattrlist => return .failed .unsupported
  | .fstat => onDescriptor host call path .read .fstat
  | .chmod => onPath host call (.chmod path mode)
  | .utimes => onPath host call (.utimes path times)
  | .fchmod => onDescriptor host call path .write (.fchmod · mode)
  | .futimes => onDescriptor host call path .write (.futimes · times)
  | .lchown => onPath host call (.lchown path host.owner)
  | .fchown => onDescriptor host call path .write (.fchown · host.owner)
  | .fchownat =>
    onPath host call (.fchownat FileCall.workingDirectory path host.owner 0)
  | .lutimes => onPath host call (.lutimes path times)

/-- Issues a menu entry on a path. -/
def issue (host : Host σ) (mode : UInt32) (path : Bytes) (call : MenuCall) : Action σ Outcome := do
  if Library.holdsNul path then
    return .pathHoldsNul
  else
    Action.log (.dispatching call path)
    call.issueCalls host mode path

end MenuCall

/-! ## Requests -/

structure Request where
  profile : Profile
  op : Operation
  path : String
  syscall : String
  payload : Option PayloadKind
  mode : UInt32
  deriving DecidableEq, Repr

namespace Request

def target (r : Request) : Target :=
  ⟨r.op.word, r.path, r.syscall, r.payload.map PayloadKind.word⟩

/-- Makes the call that is asked for, under a profile that holds. -/
def makeCall (r : Request) (host : Host σ) : Action σ Outcome :=
  match r.op.call? r.syscall with
  | some call => call.issue host r.mode (Text.Utf8.encode r.path)
  | none => do
    Action.log (.offMenu r.op r.syscall)
    return .offMenu r.op r.syscall

/-- Fulfils a request under a given way to put profiles in force. -/
def fulfilWith (r : Request) (host : Host σ) (enforce : Option Profile → Action σ Verdict) :
    Action σ Record := do
  let verdict ← enforce (some r.profile)
  if verdict.holds then
    let outcome ← r.makeCall host
    return .ofReport r.target verdict outcome.report
  else
    Action.log (.notEnforced verdict.rc verdict.kind)
    return .ofReport r.target verdict verdict.report

/-- Fulfils a request through the host's own sandbox library. -/
def fulfil (r : Request) (host : Host σ) : Action σ Record :=
  r.fulfilWith host (Profile.enforce host)

end Request

end SandboxProbe
