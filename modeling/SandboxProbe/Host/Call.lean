import SandboxProbe.Errno
import SandboxProbe.Text.Utf8

/-!
# Calls to the host

Everything that the program asks of the system it runs on. `FileCall` holds the calls on the file
system, which a sandbox is there to confine; `HostCall` adds those that find and apply a profile. The
times that a call hands over are those of the wall clock in whole seconds since 1970, and 0 for a clock
that stands before.
-/

namespace SandboxProbe

/-! ## Times -/

structure Clock where
  seconds : Int64
  nanoseconds : Int64
  deriving DecidableEq, Repr

namespace Clock

/-- The whole seconds since 1970, none for a clock that stands before. -/
def sinceEpoch? (now : Clock) : Option UInt64 :=
  if now.seconds < 0 then none else some now.seconds.toUInt64

def wholeSeconds (now : Clock) : Int64 :=
  (now.sinceEpoch?.getD 0).toInt64

end Clock

/-- A point in time as the calls take it. -/
structure TimeValue where
  seconds : Int64
  micros : Int64
  deriving DecidableEq, Repr

/-- The two times of a file object. -/
structure Times where
  access : TimeValue
  modification : TimeValue
  deriving DecidableEq, Repr

def Times.now (clock : Clock) : Times :=
  ⟨⟨clock.wholeSeconds, 0⟩, ⟨clock.wholeSeconds, 0⟩⟩

/-! ## Calls -/

/-- What a file is opened for. Neither creates nor truncates it. -/
inductive Access
  | read
  | write
  deriving DecidableEq, Repr

def Access.flags : Access → Int32
  | .read => 0
  | .write => 1

/-- The user and the group that the process runs as. -/
structure Owner where
  uid : UInt32
  gid : UInt32
  deriving DecidableEq, Repr

inductive FileCall
  | openFile (path : Bytes) (access : Access)
  | close (fd : Int32)
  | lstat (path : Bytes)
  | fstat (fd : Int32)
  | chmod (path : Bytes) (mode : UInt32)
  | fchmod (fd : Int32) (mode : UInt32)
  | utimes (path : Bytes) (times : Times)
  | lutimes (path : Bytes) (times : Times)
  | futimes (fd : Int32) (times : Times)
  | lchown (path : Bytes) (owner : Owner)
  | fchown (fd : Int32) (owner : Owner)
  | fchownat (directory : Int32) (path : Bytes) (owner : Owner) (flags : Int32)
  deriving DecidableEq, Repr

/-- The descriptor that stands for the working directory. -/
def FileCall.workingDirectory : Int32 := -100

/-- A compiled profile as the sandbox takes it. -/
structure CompiledProfile where
  /-- The profile of the system that is meant, if one is. -/
  builtin : Option Bytes
  data : Bytes
  size : Nat
  deriving DecidableEq, Repr

def CompiledProfile.ofBytes (data : Bytes) : CompiledProfile := ⟨none, data, data.length⟩

inductive HostCall
  | file (call : FileCall)
  | contents (path : Bytes)
  | dlopen (path : Bytes) (flags : Int32)
  | dlsym (name : String)
  | sandboxApply (profile : CompiledProfile)
  | dlclose
  deriving DecidableEq, Repr

/-! ## Answers -/

/-- The answer of a call that returns a number: the number, and what the call put into `errno`. -/
structure Reply where
  rc : Int32
  errno : Option Errno
  deriving DecidableEq, Repr

def Reply.ok : Reply := ⟨0, none⟩

def Reply.fail (e : Errno) : Reply := ⟨-1, some e⟩

/-- The answer of the dynamic loader: whether it found what was asked for, what it put into `errno`,
and the text that it leaves for a failure. -/
inductive Lookup
  | found (errno : Option Errno)
  | missing (errno : Option Errno) (text : Option Bytes)
  deriving DecidableEq, Repr

/-- Why a library, or a symbol of one, could not be had. -/
inductive LoadError
  | pathHoldsNul (path : String)
  | cannotOpen (path reason : String)
  | noSymbol (symbol reason : String)
  deriving DecidableEq, Repr

def LoadError.message : LoadError → String
  | .pathHoldsNul path => "path contains NUL: " ++ path
  | .cannotOpen path reason => "dlopen " ++ path ++ " failed: " ++ reason
  | .noSymbol symbol reason => "dlsym " ++ symbol ++ " failed: " ++ reason

end SandboxProbe
