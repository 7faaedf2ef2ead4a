import SandboxProbe.CommandLine.Parse
import SandboxProbe.Extraction
import SandboxProbe.Log.Filter

/-!
# Whole processes

The two programs as their parents see them: arguments and environment in; exit status, standard output
and standard error out. The log goes to standard error alone.
-/

namespace SandboxProbe

structure ProcessReport where
  status : UInt8
  stdout : String
  stderr : String
  deriving DecidableEq, Repr

/-- Of an exit code the parent sees the low eight bits. -/
def exitStatus (code : Int32) : UInt8 :=
  code.toUInt32.toUInt8

/-- The exit code where the command line is refused. -/
def wrongUsage : Int32 := 64

/-- The first argument of every process. -/
def programName : Bytes := Text.Utf8.encode "metadata-runner"

variable {σ : Type}

/-- Carries a command line out on a host. A usage error is reported and makes no call. -/
def runnerProcess (host : Host σ) (start : Session σ) (env : Environment) (args : List Bytes) :
    ProcessReport × Session σ :=
  match CommandLine.parse (programName :: args) with
  | .error .help => (⟨exitStatus 0, "", CommandLine.usage⟩, start)
  | .error e => (⟨exitStatus wrongUsage, "", e.message ++ "\n\n" ++ CommandLine.usage⟩, start)
  | .ok request =>
    let (record, after) := (request.fulfil host).run start
    (⟨exitStatus 0, record.printed,
      Event.text (after.events.filter env.filter.admits)⟩, after)

/-- Carries out an extraction where `isThere` says what exists. -/
def extractorProcess (isThere : Bytes → Bool) (loader : Loader) (env : Environment)
    (args : List Bytes) : ProcessReport :=
  let candidates := Bundle.candidates (env Bundle.variableName)
  let (code, transcript) :=
    (Extraction.carryOut isThere candidates loader args).run Extraction.start
  ⟨exitStatus code, "", Output.written env.filter.admits transcript.stderr⟩

end SandboxProbe
