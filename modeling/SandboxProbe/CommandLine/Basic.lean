import SandboxProbe.Text.Octal
import SandboxProbe.Text.Styled
import SandboxProbe.Text.Utf8

/-!
# Arguments and refusals

The seven flags of the command line, each of which takes a value; what one argument is on its own; and
why a command line is not carried out.
-/

namespace SandboxProbe.CommandLine

/-! ## Flags -/

inductive Flag
  | sbpl
  | blob
  | op
  | path
  | syscall
  | payload
  | mode
  deriving DecidableEq, Repr

namespace Flag

def all : List Flag := [.sbpl, .blob, .op, .path, .syscall, .payload, .mode]

/-- The name without its dashes. -/
def word : Flag → String
  | .sbpl => "sbpl"
  | .blob => "blob"
  | .op => "op"
  | .path => "path"
  | .syscall => "syscall"
  | .payload => "attr-payload"
  | .mode => "chmod-mode"

/-- What stands for the value in messages. -/
def placeholder : Flag → String
  | .sbpl => "PROFILE.sb"
  | .blob => "PROFILE.sb.bin"
  | .op => "OP"
  | .path => "PATH"
  | .syscall => "SYSCALL"
  | .payload => "ATTR_PAYLOAD"
  | .mode => "CHMOD_MODE"

/-- The flag as messages show it. -/
def shown (f : Flag) : String :=
  "--" ++ f.word ++ " <" ++ f.placeholder ++ ">"

/-- Names are exact: no shorter form stands for a flag. -/
def ofWord? (name : Bytes) : Option Flag :=
  all.find? fun f => Text.Utf8.encode f.word = name

end Flag

/-! ## Arguments -/

inductive Argument
  | flag (flag : Flag) (attached : Option Bytes)
  | help
  | valuedHelp (value : Bytes)
  | endOfFlags
  | unknown (shown : String)
  | plain (value : Bytes)
  deriving DecidableEq, Repr

def dash : UInt8 := 0x2D

def equalsSign : UInt8 := 0x3D

/-- The part before the first equals sign, and the part after it if there is one. -/
def splitValue : Bytes → Bytes × Option Bytes
  | [] => ([], none)
  | b :: r =>
    if b = equalsSign then ([], some r)
    else (b :: (splitValue r).1, (splitValue r).2)

namespace Argument

/-- An argument after its two dashes. -/
def long (name : Bytes) : Option Bytes → Argument
  | attached =>
    match Flag.ofWord? name with
    | some f => .flag f attached
    | none =>
      if name = Text.Utf8.encode "help" then
        match attached with
        | none => .help
        | some v => .valuedHelp v
      else .unknown ("--" ++ Text.Utf8.lossy name)

/-- An argument after its one dash: the first letter decides. -/
def short (letters : Bytes) : Argument :=
  match Text.Utf8.items letters with
  | some 'h' :: _ => .help
  | some c :: _ => .unknown (String.ofList ['-', c])
  | _ => .unknown ("-" ++ Text.Utf8.lossy letters)

def ofBytes (arg : Bytes) : Argument :=
  match arg with
  | [] => .plain []
  | [b] => .plain [b]
  | b :: c :: r =>
    if b = dash then
      if c = dash then
        if r = [] then .endOfFlags else long (splitValue r).1 (splitValue r).2
      else short (c :: r)
    else .plain arg

end Argument

/-! ## Refusals

Names and values in a message are set off by styling, and what is shown is the message's first line
without it: a value that holds escape sequences or line ends loses them, and cuts the message short. -/

open Text.Styled (Piece)

inductive Refusal
  | help
  | unexpectedArgument (shown : String)
  | valueForHelp (value : String)
  | missingValue (flag : Flag)
  | invalidValue (flag : Flag) (value : String)
  | invalidMode (value : String) (cause : Text.Octal.Error)
  | notUtf8
  | missingFlags
  deriving DecidableEq, Repr

namespace Refusal

def invalidPieces (flag : Flag) (value : String) : List Piece :=
  [.plain "invalid value '", .marked value, .plain "' for '", .marked flag.shown, .plain "'"]

def pieces : Refusal → List Piece
  | .help => [.plain "help requested"]
  | .unexpectedArgument shown =>
    [.plain "unexpected argument '", .marked shown, .plain "' found"]
  | .valueForHelp value =>
    [.plain "unexpected value '", .marked value, .plain "' for '", .marked "--help",
     .plain "' found; no more were expected"]
  | .missingValue flag =>
    [.plain "a value is required for '", .marked flag.shown, .plain "' but none was supplied"]
  | .invalidValue flag value => invalidPieces flag value
  | .invalidMode value cause =>
    invalidPieces .mode value ++ [.plain ": ", .plain cause.message]
  | .notUtf8 => [.plain "invalid UTF-8 was detected in one or more arguments"]
  | .missingFlags => [.plain "the following required arguments were not provided:"]

def message (e : Refusal) : String :=
  Text.Styled.headline e.pieces

end Refusal

def usage : String :=
  "usage:\n" ++
  "  metadata-runner (--sbpl <profile.sb> | --blob <profile.sb.bin>) " ++
  "--op <file-read-metadata|file-write*> --path <target>\n" ++
  "                  [--syscall <name>] [--attr-payload <cmn|cmn-name|cmn-times|file-size>] " ++
  "[--chmod-mode <octal>]\n" ++
  "\n" ++
  "notes:\n" ++
  "  - file-read-metadata syscalls: lstat (default), fstat, getattrlist, setattrlist\n" ++
  "  - file-write* syscalls: chmod (default), fchmod, utimes, futimes, lutimes, lchown, fchown, " ++
  "fchownat\n" ++
  "  - --chmod-mode defaults to 0640\n" ++
  "  - the result is printed as JSON on stdout; exit status is 0 whenever JSON is printed\n"

end SandboxProbe.CommandLine
