/-!
# Bytes and text

Paths, arguments and file contents are bytes, and messages are text. `items` reads bytes from left
to right as UTF-8 and marks each stretch that is none: the longest part of a character that breaks
off, or one byte that begins no character. Strict reading (`decode?`) refuses a mark, lossy reading
(`lossy`) shows it as U+FFFD.
-/

namespace SandboxProbe

abbrev Bytes := List UInt8

namespace Text.Utf8

def encodeChars (s : List Char) : Bytes :=
  s.flatMap String.utf8EncodeChar

def encode (s : String) : Bytes :=
  encodeChars s.toList

/-- A character that has begun: its bits so far, how many bytes it still wants, and the bounds of
the next one. -/
structure Begun where
  bits : Nat
  owed : Nat
  low : UInt8
  high : UInt8

/-- What a byte between characters means. The bounds leave out overlong forms, surrogates and values
above U+10FFFF. -/
inductive Lead
  | alone (c : Char)
  | begins (b : Begun)
  | bad

def lead (b : UInt8) : Lead :=
  if b < 0x80 then .alone (Char.ofNat b.toNat)
  else if b < 0xC2 then .bad
  else if b < 0xE0 then .begins ⟨b.toNat - 0xC0, 1, 0x80, 0xBF⟩
  else if b = 0xE0 then .begins ⟨0, 2, 0xA0, 0xBF⟩
  else if b = 0xED then .begins ⟨0xD, 2, 0x80, 0x9F⟩
  else if b < 0xF0 then .begins ⟨b.toNat - 0xE0, 2, 0x80, 0xBF⟩
  else if b = 0xF0 then .begins ⟨0, 3, 0x90, 0xBF⟩
  else if b < 0xF4 then .begins ⟨b.toNat - 0xF0, 3, 0x80, 0xBF⟩
  else if b = 0xF4 then .begins ⟨4, 3, 0x80, 0x8F⟩
  else .bad

/-- One byte between characters: what it completes, and what it leaves begun. -/
def enter (b : UInt8) : List (Option Char) × Option Begun :=
  match lead b with
  | .alone c => ([some c], none)
  | .begins p => ([], some p)
  | .bad => ([none], none)

/-- One byte. A byte out of bounds breaks off the character begun and is read afresh. -/
def step : Option Begun → UInt8 → List (Option Char) × Option Begun
  | none, b => enter b
  | some p, b =>
    if p.low ≤ b ∧ b ≤ p.high then
      let bits := p.bits * 64 + (b.toNat - 0x80)
      if p.owed ≤ 1 then ([some (Char.ofNat bits)], none)
      else ([], some ⟨bits, p.owed - 1, 0x80, 0xBF⟩)
    else
      let (out, begun) := enter b
      (none :: out, begun)

def itemsFrom : Option Begun → Bytes → List (Option Char)
  | none, [] => []
  | some _, [] => [none]
  | p, b :: r => (step p b).1 ++ itemsFrom (step p b).2 r

/-- The characters of `bytes` in order, with `none` for each stretch that is not UTF-8. -/
def items (bytes : Bytes) : List (Option Char) :=
  itemsFrom none bytes

/-- The text of `bytes`, if they are UTF-8 throughout. -/
def decode? (bytes : Bytes) : Option String :=
  ((items bytes).mapM id).map String.ofList

/-- The text of `bytes` with U+FFFD for each stretch that is not UTF-8. -/
def lossy (bytes : Bytes) : String :=
  String.ofList ((items bytes).map (·.getD '\uFFFD'))

end Text.Utf8

end SandboxProbe
