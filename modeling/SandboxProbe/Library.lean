import SandboxProbe.Host.Session

/-!
# Dynamic libraries

Opening a library and looking symbols up. The loader keeps one pending error text; each lookup drops
what is pending before it asks, so that a reason is always the text of the lookup that failed.
-/

namespace SandboxProbe

/-- A library that has been opened, under the path that messages show. -/
structure Library where
  path : String
  deriving DecidableEq, Repr

namespace Library

variable {σ : Type}

/-- Resolve every symbol at once, and keep them to this library. -/
def resolveNow : Int32 := 2

def holdsNul (bytes : Bytes) : Bool :=
  bytes.contains 0

/-- A text of the loader: it ends before its first NUL. -/
def reasonOf : Option Bytes → String
  | some text => Text.Utf8.lossy (text.takeWhile (· ≠ 0))
  | none => "unknown error"

/-- The text of the failure that was just seen. -/
def takeReason : Action σ String :=
  return reasonOf (← Action.takePending)

def load (host : Host σ) (path : Bytes) (flags : Int32) : Action σ (Except LoadError Library) := do
  let shown := Text.Utf8.lossy path
  if holdsNul path then
    return .error (.pathHoldsNul shown)
  else
    let _ ← Action.takePending
    if ← host.dlopen path flags then
      Action.log (.libraryOpened path)
      return .ok ⟨shown⟩
    else
      return .error (.cannotOpen shown (← takeReason))

/-- Looks a symbol of the library up; the address itself is of no interest. -/
def lookUp (host : Host σ) (name : String) : Action σ (Except LoadError Unit) := do
  if name.toList.contains '\x00' then
    return .error (.noSymbol name "symbol name contains NUL")
  else
    let _ ← Action.takePending
    if ← host.dlsym name then
      return .ok ()
    else
      return .error (.noSymbol name (← takeReason))

def lookUpAll (host : Host σ) : List String → Action σ (List (Except LoadError Unit))
  | [] => return []
  | name :: names => do
    let answer ← lookUp host name
    return answer :: (← lookUpAll host names)

/-- Opens a library, looks `names` up in order, and closes it again. -/
def survey (host : Host σ) (path : Bytes) (flags : Int32) (names : List String) :
    Action σ (Except LoadError (Library × List (Except LoadError Unit))) := do
  match ← load host path flags with
  | .error e => return .error e
  | .ok library =>
    let answers ← lookUpAll host names
    host.closeLibrary
    return .ok (library, answers)

end Library

end SandboxProbe
