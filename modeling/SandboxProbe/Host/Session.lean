import SandboxProbe.Host.Call
import SandboxProbe.Log.Event

/-!
# Hosts and sessions

A `Host` answers calls; file calls may change its state. A `Session` is what a run has seen and left
behind: the host's state, the value of `errno`, the loader's pending text, and the calls and events
so far in order. Actions are the steps of a run; each call is recorded as it is made.
-/

namespace SandboxProbe

structure Host (σ : Type) where
  clock : Clock
  owner : Owner
  file : FileCall → σ → Reply × σ
  /-- What reading a whole file gives, or the error of opening or reading it. -/
  contents : Bytes → σ → Except Errno Bytes
  library : Bytes → Lookup
  symbol : String → Lookup
  sandboxApply : CompiledProfile → Reply
  dlclose : Reply

structure Session (σ : Type) where
  state : σ
  errno : Errno
  pending : Option Bytes
  calls : List HostCall
  events : List Event

def Session.start {σ : Type} (state : σ) (errno : Errno) (pending : Option Bytes) : Session σ :=
  ⟨state, errno, pending, [], []⟩

abbrev Action (σ : Type) := StateM (Session σ)

variable {σ : Type}

namespace Action

def log (e : Event) : Action σ Unit :=
  modify fun s => { s with events := s.events ++ [e] }

def resetErrno : Action σ Unit :=
  modify fun s => { s with errno := .zero }

def readErrno : Action σ Errno :=
  return (← get).errno

def errnoLeft : Action σ (Option Errno) :=
  return (← get).errno.nonzero?

/-- Takes the loader's pending text. -/
def takePending : Action σ (Option Bytes) :=
  modifyGet fun s => (s.pending, { s with pending := none })

/-- Records a call and what it put into `errno`. -/
def record (call : HostCall) (errno : Option Errno) : Action σ Unit :=
  modify fun s => { s with errno := errno.getD s.errno, calls := s.calls ++ [call] }

end Action

namespace Host

def fileCall (host : Host σ) (call : FileCall) : Action σ Int32 := do
  let (reply, state) := host.file call (← get).state
  modify fun s => { s with state }
  Action.record (.file call) reply.errno
  return reply.rc

def fetch (host : Host σ) (path : Bytes) : Action σ (Except Errno Bytes) := do
  match host.contents path (← get).state with
  | .ok data =>
    Action.record (.contents path) none
    return .ok data
  | .error e =>
    Action.record (.contents path) (some e)
    return .error e

/-- Records a loader call. A failure leaves its text pending. -/
def lookup (call : HostCall) (answer : Lookup) : Action σ Bool := do
  match answer with
  | .found errno =>
    Action.record call errno
    return true
  | .missing errno text =>
    Action.record call errno
    modify fun s => { s with pending := text }
    return false

def dlopen (host : Host σ) (path : Bytes) (flags : Int32) : Action σ Bool :=
  lookup (.dlopen path flags) (host.library path)

def dlsym (host : Host σ) (name : String) : Action σ Bool :=
  lookup (.dlsym name) (host.symbol name)

def applySandbox (host : Host σ) (profile : CompiledProfile) : Action σ Int32 := do
  let reply := host.sandboxApply profile
  Action.record (.sandboxApply profile) reply.errno
  return reply.rc

def closeLibrary (host : Host σ) : Action σ Unit :=
  Action.record .dlclose host.dlclose.errno

end Host

end SandboxProbe
