import SandboxProbe.FileTree.Machine
import SandboxProbe.Process

/-!
# The programs

One executable under two names. It gathers what a process is given, and hands it to the pure programs:
a text profile is read beforehand, and no metadata call is reached without a sandbox library.
-/

namespace SandboxProbe

def ioFailure : Errno := ⟨5⟩

/-- The number behind a failure to read a file. -/
def errnoOf : IO.Error → Errno
  | .noFileOrDirectory _ code _ | .inappropriateType _ code _ | .permissionDenied _ code _
  | .invalidArgument _ code _ | .resourceExhausted _ code _ | .otherError code _ =>
    ⟨code.toInt32⟩
  | _ => ioFailure

def readProfile : Profile → IO (Except Errno Bytes)
  | .blob _ => return .error .noEntry
  | .text path => do
    try
      let data ← IO.FS.readBinFile (Text.Utf8.lossy path)
      return .ok data.toList
    catch e => return .error (errnoOf e)

def isThere (path : Bytes) : IO Bool := do
  try
    let _ ← IO.FS.realPath (Text.Utf8.lossy path)
    return true
  catch _ => return false

/-- The variables that the programs look at. -/
def readEnvironment : IO Environment := do
  let names := [Environment.logVariable, Environment.fallbackLogVariable, Bundle.variableName]
  let values ← names.mapM fun name => return (name, (← IO.getEnv name).map Text.Utf8.encode)
  return fun name => (values.lookup name).join

def runMetadata (env : Environment) (args : List Bytes) : IO ProcessReport := do
  let data ← match CommandLine.parse (programName :: args) with
    | .ok request => readProfile request.profile
    | .error _ => pure (.error .noEntry)
  let host := { Machine.host ⟨0, 0⟩ ⟨0, 0⟩ with contents := fun _ _ => data }
  let start := Session.start (Machine.start (Tree.bare 0)) .zero none
  return (runnerProcess host start env args).1

def runExtraction (env : Environment) (args : List Bytes) : IO ProcessReport := do
  let there ← (Bundle.candidates (env Bundle.variableName)).filterM isThere
  return extractorProcess there.contains Loader.system env args

end SandboxProbe

open SandboxProbe

def main (args : List String) : IO UInt32 := do
  let env ← readEnvironment
  let args := args.map Text.Utf8.encode
  let extracting := (← IO.appPath).toString.endsWith "dsc-extract"
  let report ← if extracting then runExtraction env args else runMetadata env args
  (← IO.getStderr).putStr report.stderr
  (← IO.getStdout).putStr report.stdout
  return report.status.toUInt32
