import SandboxProbe.Json.Basic
import SandboxProbe.Text.Characters

/-!
# Reading JSON

A strict reader for the values of this library: blanks only where the format allows them, no control
character in a string, no leading zero in a number, no key twice in an object, and nothing after the
value. `read?` is the other side of the printer.
-/

namespace SandboxProbe.Json

open Text

def isBlank (c : Char) : Bool :=
  c = ' ' || c = '\t' || c = '\n' || c = '\r'

def skipBlanks (s : List Char) : List Char :=
  s.dropWhile isBlank

/-- The number that four hexadecimal digits stand for. -/
def unit? (a b c d : Char) : Option Nat := do
  return (((← Digits.hex? a) * 16 + (← Digits.hex? b)) * 16 + (← Digits.hex? c)) * 16 +
    (← Digits.hex? d)

/-- The character that a backslash and one letter stand for. -/
def unescape? (c : Char) : Option Char :=
  if c = '"' ∨ c = '\\' ∨ c = '/' then some c
  else if c = 'b' then some '\x08'
  else if c = 'f' then some '\x0C'
  else if c = 'n' then some '\n'
  else if c = 'r' then some '\r'
  else if c = 't' then some '\t'
  else none

/-- A string whose opening mark has been read, and what follows its closing mark. A character above
U+FFFF may be written as two units. -/
def readString : List Char → Option (List Char × List Char)
  | [] => none
  | '"' :: r => some ([], r)
  | '\\' :: 'u' :: a :: b :: c :: d :: r => do
    let high ← unit? a b c d
    if 0xD800 ≤ high ∧ high < 0xDC00 then
      match r with
      | '\\' :: 'u' :: e :: f :: g :: h :: r =>
        let low ← unit? e f g h
        if 0xDC00 ≤ low ∧ low < 0xE000 then
          let (s, rest) ← readString r
          return (Char.ofNat (0x10000 + (high - 0xD800) * 0x400 + (low - 0xDC00)) :: s, rest)
        else none
      | _ => none
    else if 0xDC00 ≤ high ∧ high < 0xE000 then none
    else
      let (s, rest) ← readString r
      return (Char.ofNat high :: s, rest)
  | '\\' :: e :: r => do
    let c ← unescape? e
    let (s, rest) ← readString r
    return (c :: s, rest)
  | c :: r =>
    if c < ' ' ∨ c = '\\' then none
    else do
      let (s, rest) ← readString r
      return (c :: s, rest)

/-- A number without sign: a lone zero, or digits that do not begin with zero. -/
def readNat (s : List Char) : Option (Nat × List Char) :=
  match s.takeWhile Digits.isDecimal with
  | [] => none
  | '0' :: _ :: _ => none
  | ds => some (Digits.value ds, s.dropWhile Digits.isDecimal)

def readNumber : List Char → Option (Int × List Char)
  | '-' :: r => (readNat r).map fun (n, rest) => (-(n : Int), rest)
  | r => (readNat r).map fun (n, rest) => ((n : Int), rest)

/-- What follows a word, if the text begins with it. -/
def word? : List Char → List Char → Option (List Char)
  | [], s => some s
  | c :: w, d :: s => if c = d then word? w s else none
  | _ :: _, [] => none

mutual

/-- A value at the beginning of the text, nested at most `fuel` deep and wide, and what follows. -/
def readValue : Nat → List Char → Option (Json × List Char)
  | 0, _ => none
  | fuel + 1, s =>
    match s with
    | 'n' :: _ => (word? "null".toList s).map (Json.null, ·)
    | 't' :: _ => (word? "true".toList s).map (Json.bool true, ·)
    | 'f' :: _ => (word? "false".toList s).map (Json.bool false, ·)
    | '"' :: r => (readString r).map fun (t, rest) => (.string (String.ofList t), rest)
    | '\x7b' :: r =>
      match skipBlanks r with
      | '\x7d' :: rest => some (.object [], rest)
      | r => (readFields fuel r).map fun (fields, rest) => (.object fields, rest)
    | s => (readNumber s).map fun (n, rest) => (.number n, rest)

/-- One or more fields up to the closing brace, with distinct keys. -/
def readFields : Nat → List Char → Option (List (String × Json) × List Char)
  | 0, _ => none
  | fuel + 1, s =>
    match s with
    | '"' :: r => do
      let (key, r) ← readString r
      match skipBlanks r with
      | ':' :: r =>
        let (v, r) ← readValue fuel (skipBlanks r)
        match skipBlanks r with
        | '\x7d' :: rest => return ([(String.ofList key, v)], rest)
        | ',' :: r =>
          let (fields, rest) ← readFields fuel (skipBlanks r)
          if fields.any (fun f => f.1 = String.ofList key) then none
          else return ((String.ofList key, v) :: fields, rest)
        | _ => none
      | _ => none
    | _ => none

end

/-- The value that `text` is a document of. -/
def read? (text : String) : Option Json := do
  let s := text.toList
  let (v, rest) ← readValue (s.length + 1) (skipBlanks s)
  if skipBlanks rest = [] then return v else none

end SandboxProbe.Json
