/-!
# JSON values and their text

Values without arrays, with whole numbers. An object is the list of its fields in the order in which
they are written; `sortKeys` puts the fields of every object, at any depth, in the order of their
keys. In the text each field stands on a line of its own, two blanks deeper than its object. A string
keeps all its characters but quotation marks, backslashes and control characters, which are escaped, so
that no text can leave its line.
-/

namespace SandboxProbe

inductive Json
  | null
  | bool (b : Bool)
  | number (n : Int)
  | string (s : String)
  | object (fields : List (String × Json))

namespace Json

/-- Puts a field before the first one whose key is greater. -/
def insertField (field : String × Json) : List (String × Json) → List (String × Json)
  | [] => [field]
  | f :: fs => if field.1 < f.1 then field :: f :: fs else f :: insertField field fs

mutual

def sortKeys : Json → Json
  | .object fields => .object (sortFields fields)
  | v => v

/-- The fields with their values sorted, in the order of their keys. -/
def sortFields : List (String × Json) → List (String × Json)
  | [] => []
  | (k, v) :: fs => insertField (k, sortKeys v) (sortFields fs)

end

def ofOption {α : Type} (f : α → Json) : Option α → Json
  | none => .null
  | some a => f a

/-! ## Printing -/

def hexDigit (n : Nat) : Char :=
  Nat.digitChar n

def escape (c : Char) : List Char :=
  if c = '"' then ['\\', '"']
  else if c = '\\' then ['\\', '\\']
  else if c = '\x08' then ['\\', 'b']
  else if c = '\x0C' then ['\\', 'f']
  else if c = '\n' then ['\\', 'n']
  else if c = '\r' then ['\\', 'r']
  else if c = '\t' then ['\\', 't']
  else if c < ' ' then ['\\', 'u', '0', '0', hexDigit (c.toNat / 16), hexDigit (c.toNat % 16)]
  else [c]

def printString (s : String) : List Char :=
  '"' :: s.toList.flatMap escape ++ ['"']

def printNumber : Int → List Char
  | .ofNat n => Nat.toDigits 10 n
  | .negSucc n => '-' :: Nat.toDigits 10 (n + 1)

def indent (depth : Nat) : List Char :=
  List.replicate (2 * depth) ' '

mutual

/-- A value whose first line is already indented, inside `depth` objects. -/
def print (depth : Nat) : Json → List Char
  | .null => "null".toList
  | .bool true => "true".toList
  | .bool false => "false".toList
  | .number n => printNumber n
  | .string s => printString s
  | .object [] => "\x7b\x7d".toList
  | .object (f :: fs) =>
    '\x7b' :: '\n' :: printFields (depth + 1) (f :: fs) ++ '\n' :: indent depth ++ ['\x7d']

/-- Fields on lines of their own, with commas between them. -/
def printFields (depth : Nat) : List (String × Json) → List Char
  | [] => []
  | [(k, v)] => indent depth ++ printString k ++ ':' :: ' ' :: print depth v
  | (k, v) :: f :: fs =>
    indent depth ++ printString k ++ ':' :: ' ' :: print depth v ++
      ',' :: '\n' :: printFields depth (f :: fs)

end

def pretty (v : Json) : String :=
  String.ofList (print 0 v)

end Json

end SandboxProbe
