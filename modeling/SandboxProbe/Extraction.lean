import SandboxProbe.Log.Event

/-!
# Extraction

One extraction of a shared cache: check the arguments, find a bundle, load it, and let its extractor
work. Each stage that fails ends the extraction with its own message and exit code.
-/

namespace SandboxProbe

/-! ## Bundles

Where the extractor may be. A variable of the environment, if it is set and not empty, takes the place
of the usual candidates; the first candidate that exists is used. -/

namespace Bundle

def variableName : String := "DSC_EXTRACTOR_BUNDLE"

/-- The symbol that a bundle is used through. -/
def entryPoint : String := "dyld_shared_cache_extract_dylibs_progress"

def usual : List String :=
  ["/usr/lib/dsc_extractor.bundle",
   "/Applications/Xcode.app/Contents/Developer/Platforms/MacOSX.platform/usr/lib/" ++
     "dsc_extractor.bundle"]

/-- The candidates under a value of the variable. -/
def candidates : Option Bytes → List Bytes
  | none | some [] => usual.map Text.Utf8.encode
  | some path => [path]

/-- The first candidate that is there. -/
def find? (isThere : Bytes → Bool) (candidates : List Bytes) : Option Bytes :=
  candidates.find? isThere

end Bundle

/-! ## Loaders and extractors -/

inductive ExtractionError
  | noBundle
  | cannotLoad (error : LoadError)
  | noEntryPoint (error : LoadError)
  | cannotLoadHere
  | pathHoldsNul (path : String)
  deriving DecidableEq, Repr

def ExtractionError.message : ExtractionError → String
  | .noBundle => "dsc_extractor.bundle not found. Install Xcode if needed."
  | .cannotLoad error => "dlopen failed: " ++ error.message
  | .noEntryPoint error => "symbol not found in bundle: " ++ error.message
  | .cannotLoadHere => "dsc_extractor.bundle cannot be loaded on this platform"
  | .pathHoldsNul path => "path contains NUL byte: " ++ path

structure Progress where
  current : UInt32
  total : UInt32
  deriving DecidableEq, Repr

/-- The indicator goes back to the start of its line; without a total there is nothing to show. -/
def Progress.text (p : Progress) : String :=
  if p.total = 0 then ""
  else "\rExtracting " ++ toString p.current.toNat ++ "/" ++ toString p.total.toNat

/-- What an extractor does with a cache and a directory: the progress it reports, and how it ends. -/
structure Work where
  progress : List Progress
  ending : Except ExtractionError Int32

abbrev Extractor := Bytes → Bytes → Work

abbrev Loader := Bytes → Except ExtractionError Extractor

/-- Bundles cannot be loaded here. -/
def Loader.system : Loader := fun _ => .error .cannotLoadHere

/-- What an extraction has done: its diagnostics, the bundles it asked the loader for, and the caches
and directories it gave to an extractor. -/
structure Transcript where
  stderr : List Output
  loaded : List Bytes
  extracted : List (Bytes × Bytes)

abbrev Extraction := StateM Transcript

namespace Extraction

def usage : String := "usage: dsc-extract <path-to-dyld_shared_cache> <output-dir>"

/-- The exit code where the arguments are wrong. -/
def wrongArguments : Int32 := 2

/-- The exit code where there is no extractor, or the extractor breaks off. -/
def unavailable : Int32 := 1

def put (o : Output) : Extraction Unit :=
  modify fun t => { t with stderr := t.stderr ++ [o] }

/-- Asks the loader for a bundle. -/
def load (loader : Loader) (bundle : Bytes) : Extraction (Except ExtractionError Extractor) := do
  modify fun t => { t with loaded := t.loaded ++ [bundle] }
  return loader bundle

/-- Lets an extractor work, and shows its progress. -/
def work (extractor : Extractor) (cache directory : Bytes) :
    Extraction (Except ExtractionError Int32) := do
  let done := extractor cache directory
  modify fun t => { t with
    stderr := t.stderr ++ done.progress.map fun p => .text p.text
    extracted := t.extracted ++ [(cache, directory)] }
  return done.ending

/-- The extraction that the arguments ask for; its value is the exit code. -/
def carryOut (isThere : Bytes → Bool) (candidates : List Bytes) (loader : Loader)
    (args : List Bytes) : Extraction Int32 := do
  match args with
  | [cache, directory] =>
    match Bundle.find? isThere candidates with
    | none =>
      put (.line ExtractionError.noBundle.message)
      return unavailable
    | some bundle =>
      put (.event (.usingBundle bundle))
      match ← load loader bundle with
      | .error e =>
        put (.line e.message)
        return unavailable
      | .ok extractor =>
        match ← work extractor cache directory with
        | .error e =>
          put (.line e.message)
          return unavailable
        | .ok rc =>
          put (.text "\n")
          if rc ≠ 0 then
            put (.line ("extraction failed rc=" ++ Errno.decimal rc))
          return rc
  | _ =>
    put (.line usage)
    return wrongArguments

def start : Transcript := ⟨[], [], []⟩

end Extraction

end SandboxProbe
