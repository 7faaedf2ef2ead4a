/-!
# Styled diagnostics

A diagnostic sets names and values off by terminal styling: a sequence that switches the style on,
the value, and a sequence that switches it off. Where the styling is not wanted, `strip` takes every
escape sequence out again, the value's own ones included, and `firstLine` keeps the line that says
what is wrong.
-/

namespace SandboxProbe.Text.Styled

/-- A part of a diagnostic: wording, or a name or value that is set off. -/
inductive Piece
  | plain (text : String)
  | marked (text : String)

def styleOn : List Char := "\x1B[33m".toList

def styleOff : List Char := "\x1B[0m".toList

def Piece.written : Piece → List Char
  | .plain text => text.toList
  | .marked text => styleOn ++ text.toList ++ styleOff

/-! ## Escape sequences -/

/-- Where reading stands: between sequences; after the escape character, or an intermediate one of a
short sequence; in a control sequence; in a system command; in the header of a device control string,
at its start, among its parameters or among its intermediates; in the body of a control string. -/
inductive Mode
  | ground
  | escape
  | intermediate
  | control
  | command
  | device
  | parameters
  | intermediates
  | string
  deriving DecidableEq, Repr

namespace Mode

def isBlank (c : Char) : Bool :=
  c = '\t' || c = '\n' || c = '\x0C' || c = '\r'

/-- The mode after a character of a sequence that is neither a control character nor above ASCII. A
header ends with its final character, or with one that is out of turn. -/
def next : Mode → Char → Mode
  | .ground, _ => .ground
  | .escape, c =>
    if c = '[' then .control
    else if c = ']' then .command
    else if c = 'P' then .device
    else if c = 'X' ∨ c = '^' ∨ c = '_' then .string
    else if c < '0' then .intermediate
    else .ground
  | .intermediate, c => if c < '0' then .intermediate else .ground
  | .control, c => if c < '@' then .control else .ground
  | .command, _ => .command
  | .device, c =>
    if c < '0' then .intermediates else if c < '@' then .parameters else .string
  | .parameters, c =>
    if c < '0' then .intermediates else if c < '<' then .parameters else .string
  | .intermediates, c => if c < '0' then .intermediates else .string
  | .string, _ => .string

/-- Whether control characters belong to the sequence. -/
def holdsControls : Mode → Bool
  | .command | .device | .parameters | .intermediates | .string => true
  | _ => false

/-- A control character of a sequence: a bell ends a system command, and a blank ends a sequence that
does not hold control characters, and is kept. -/
def atControl (m : Mode) (c : Char) : Mode × Bool :=
  if m.holdsControls then (if m = .command ∧ c = '\x07' then .ground else m, false)
  else if isBlank c then (.ground, true)
  else (m, false)

def terminator : UInt8 := 0x9C

/-- A character above ASCII. Sequences are made of bytes: inside of one the character is dropped, and
if the terminator is among its bytes the body of a control string ends with it. -/
def aboveAscii (m : Mode) (c : Char) : Mode × Bool :=
  if m = .ground then (.ground, true)
  else if m = .string ∧ terminator ∈ String.utf8EncodeChar c then (.ground, false)
  else (m, false)

/-- One character: the mode after it, and whether it is kept. Cancel and substitute end any
sequence. -/
def read (m : Mode) (c : Char) : Mode × Bool :=
  if c = '\x1B' then (.escape, false)
  else if c = '\x18' ∨ c = '\x1A' then (.ground, false)
  else if '\x80' ≤ c then m.aboveAscii c
  else if c < ' ' ∨ c = '\x7F' then m.atControl c
  else if m = .ground then (.ground, true)
  else (m.next c, false)

end Mode

def stripFrom : Mode → List Char → List Char
  | _, [] => []
  | m, c :: r =>
    if (m.read c).2 then c :: stripFrom (m.read c).1 r else stripFrom (m.read c).1 r

/-- A text without its escape sequences and control characters, blanks apart. -/
def strip (s : List Char) : List Char :=
  stripFrom .ground s

/-! ## The first line -/

/-- The characters before the first line feed, less a carriage return just before it. -/
def firstLine : List Char → List Char
  | [] => []
  | '\n' :: _ => []
  | '\r' :: '\n' :: _ => []
  | c :: r => c :: firstLine r

/-- A diagnostic as it is shown: without styling, and its first line alone. -/
def headline (pieces : List Piece) : String :=
  String.ofList (firstLine (strip (pieces.flatMap Piece.written)))

end SandboxProbe.Text.Styled
