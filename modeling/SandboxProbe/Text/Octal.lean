import SandboxProbe.Text.Quoted

/-!
# Octal file modes

A mode is written in octal digits, after an optional `0o` and then an optional `+`. Values that do
not fit 32 bits are no numbers; of those that do, modes reach up to 7777.
-/

namespace SandboxProbe.Text.Octal

inductive Error
  | notOctal (given : String)
  | outOfRange (given : String)
  deriving DecidableEq, Repr

def Error.message : Error → String
  | .notOctal given => "invalid octal mode " ++ Quoted.quote given
  | .outOfRange given => "mode " ++ Quoted.quote given ++ " out of range (max 7777)"

def digit? (c : Char) : Option Nat :=
  if '0' ≤ c ∧ c ≤ '7' then some (c.toNat - '0'.toNat) else none

def dropMark : List Char → List Char
  | '0' :: 'o' :: r => r
  | s => s

/-- The value of the digits after those worth `n`, as long as it stays below 2^32. -/
def accumulate (n : Nat) : List Char → Option Nat
  | [] => some n
  | c :: r => do
    let d ← digit? c
    let m := n * 8 + d
    if m < 2 ^ 32 then accumulate m r else none

def number? : List Char → Option Nat
  | [] => none
  | s => accumulate 0 s

/-- The highest mode: three permission groups, setuid, setgid and sticky. -/
def highest : Nat := 0o7777

def read (given : String) : Except Error UInt32 :=
  match number? (Digits.dropPlus (dropMark given.toList)) with
  | none => .error (.notOctal given)
  | some n => if n ≤ highest then .ok (UInt32.ofNat n) else .error (.outOfRange given)

end SandboxProbe.Text.Octal
