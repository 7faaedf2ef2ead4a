import SandboxProbe.Library

/-!
# Putting a profile in force

A text profile is read and checked to be text, but the facility that takes text is not available
here. A blob goes through the sandbox library: open it, find the entry point, read the blob, hand it
over, and close the library at the end of every way that opened it. Every failure ends in a verdict.
-/

namespace SandboxProbe.Profile

variable {σ : Type}

def libraryPath : String := "/usr/lib/libsandbox.1.dylib"

def entryPoint : String := "sandbox_apply"

/-- The bytes of a profile. A path that holds NUL names no file and leaves no error number. -/
def fetch (host : Host σ) (path : Bytes) : Action σ (Except (Option Errno) Bytes) := do
  if Library.holdsNul path then
    return .error none
  else
    match ← host.fetch path with
    | .ok data => return .ok data
    | .error e => return .error (some e)

def enforceText (host : Host σ) (path : Bytes) : Action σ Verdict := do
  Action.resetErrno
  match ← fetch host path with
  | .error errno => return ⟨-2, errno, some "failed to read sbpl", .text⟩
  | .ok data =>
    match Text.Utf8.decode? data with
    | none => return ⟨-2, none, some "failed to read sbpl", .text⟩
    | some _ => return ⟨-1, none, some "sandbox facility unavailable on this platform", .text⟩

/-- The part of a blob's way on which the library is open. -/
def enforceThrough (host : Host σ) (path : Bytes) : Action σ Verdict := do
  match ← Library.lookUp host entryPoint with
  | .error e =>
    Action.log (.symbolMissing e)
    return ⟨-1, ← Action.errnoLeft, some "dlsym sandbox_apply failed", .blob⟩
  | .ok () =>
    match ← fetch host path with
    | .error errno => return ⟨-2, errno, some "failed to load blob", .blob⟩
    | .ok data =>
      Action.resetErrno
      let rc ← host.applySandbox (.ofBytes data)
      let left ← Action.errnoLeft
      return ⟨rc, if rc = 0 then none else left, none, .blob⟩

def enforceBlob (host : Host σ) (path : Bytes) : Action σ Verdict := do
  Action.resetErrno
  match ← Library.load host (Text.Utf8.encode libraryPath) Library.resolveNow with
  | .error e =>
    Action.log (.libraryUnavailable e)
    return ⟨-1, ← Action.errnoLeft, some "dlopen libsandbox failed", .blob⟩
  | .ok _ =>
    let verdict ← enforceThrough host path
    host.closeLibrary
    return verdict

def enforce (host : Host σ) : Option Profile → Action σ Verdict
  | none => return ⟨-3, none, some "no profile path provided", .none⟩
  | some profile => do
    Action.log (.enforcing profile)
    match profile with
    | .text path => enforceText host path
    | .blob path => enforceBlob host path

end SandboxProbe.Profile
