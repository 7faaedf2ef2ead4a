import SandboxProbe.Host.Call
import SandboxProbe.Menu
import SandboxProbe.Profile.Basic

/-!
# Log events

What the program tells about its own steps. An event has a level, the target it belongs to, a
message, and fields whose values are shown as they are. Events and diagnostics share one stream; which
events are written is decided at its end.
-/

namespace SandboxProbe

inductive Level
  | error
  | warn
  | info
  | debug
  | trace
  deriving DecidableEq, Repr

/-- The level in a column of five. -/
def Level.column : Level → String
  | .error => "ERROR"
  | .warn => " WARN"
  | .info => " INFO"
  | .debug => "DEBUG"
  | .trace => "TRACE"

inductive Event
  | enforcing (profile : Profile)
  | libraryOpened (path : Bytes)
  | libraryUnavailable (error : LoadError)
  | symbolMissing (error : LoadError)
  | notEnforced (rc : Int32) (kind : ProfileKind)
  | offMenu (op : Operation) (syscall : String)
  | dispatching (call : MenuCall) (path : Bytes)
  | usingBundle (path : Bytes)
  deriving DecidableEq, Repr

namespace Event

def level : Event → Level
  | .usingBundle _ => .info
  | _ => .debug

def target : Event → String
  | .enforcing _ | .libraryUnavailable _ | .symbolMissing _ => "metadata_runner::sandbox"
  | .libraryOpened _ => "metadata_runner::dylib"
  | .notEnforced _ _ | .offMenu _ _ => "metadata_runner"
  | .dispatching _ _ => "metadata_runner::metadata_ops"
  | .usingBundle _ => "dsc_extract::dsc_extractor"

def message : Event → String
  | .enforcing (.text _) => "applying sbpl profile"
  | .enforcing (.blob _) => "applying compiled profile blob"
  | .libraryOpened _ => "dlopen succeeded"
  | .libraryUnavailable _ => "libsandbox unavailable"
  | .symbolMissing _ => "sandbox_apply missing"
  | .notEnforced _ _ => "sandbox apply failed; skipping operation"
  | .offMenu _ _ => "unsupported combination"
  | .dispatching _ _ => "dispatching metadata call"
  | .usingBundle _ => "using extractor bundle"

/-- A fixed word between quotation marks. -/
def marked (s : String) : String :=
  "\"" ++ s ++ "\""

def fields : Event → List (String × String)
  | .enforcing profile => [("path", Text.Utf8.lossy profile.path)]
  | .libraryOpened path => [("path", Text.Utf8.lossy path)]
  | .libraryUnavailable error | .symbolMissing error => [("error", error.message)]
  | .notEnforced rc kind => [("rc", Errno.decimal rc), ("mode", kind.title)]
  | .offMenu op syscall => [("op", marked op.word), ("syscall", syscall)]
  | .dispatching call path =>
    [("syscall", marked call.name), ("path", Text.Utf8.lossy path)]
  | .usingBundle path => [("bundle", Text.Utf8.lossy path)]

/-- The names of all fields. The message is a field too. -/
def fieldNames (e : Event) : List String :=
  "message" :: e.fields.map (·.1)

/-- The event as it is written, with its line end. -/
def line (e : Event) : String :=
  e.level.column ++ " " ++ e.message ++
    String.join (e.fields.map fun (k, v) => " " ++ k ++ "=" ++ v) ++ "\n"

def text (events : List Event) : String :=
  String.join (events.map line)

end Event

/-! ## Standard error -/

inductive Output
  | text (text : String)
  | event (event : Event)
  deriving DecidableEq, Repr

namespace Output

def line (s : String) : Output :=
  .text (s ++ "\n")

def shown (admits : Event → Bool) : Output → String
  | .text s => s
  | .event e => if admits e then e.line else ""

def written (admits : Event → Bool) (outputs : List Output) : String :=
  String.join (outputs.map (shown admits))

end Output

end SandboxProbe
