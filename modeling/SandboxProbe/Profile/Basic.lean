import SandboxProbe.Errno
import SandboxProbe.Text.Utf8

/-!
# Sandbox profiles

A profile is a text in the profile language or a compiled blob, in a file. Putting one in force ends
in a `Verdict`: the facility's return code, and what is known about a failure.
-/

namespace SandboxProbe

inductive Profile
  | text (path : Bytes)
  | blob (path : Bytes)
  deriving DecidableEq, Repr

/-- The kind of profile that was put in force, or that there was none. -/
inductive ProfileKind
  | text
  | blob
  | none
  deriving DecidableEq, Repr

namespace ProfileKind

def all : List ProfileKind := [.text, .blob, .none]

def word : ProfileKind → String
  | .text => "sbpl"
  | .blob => "blob"
  | .none => "none"

/-- The kind as log events show it. -/
def title : ProfileKind → String
  | .text => "Sbpl"
  | .blob => "Blob"
  | .none => "None"

end ProfileKind

namespace Profile

def kind : Profile → ProfileKind
  | .text _ => .text
  | .blob _ => .blob

def path : Profile → Bytes
  | .text path => path
  | .blob path => path

end Profile

structure Verdict where
  rc : Int32
  errno : Option Errno
  message : Option String
  kind : ProfileKind
  deriving DecidableEq, Repr

/-- Whether the profile is in force. -/
def Verdict.holds (v : Verdict) : Bool :=
  v.rc = 0

end SandboxProbe
