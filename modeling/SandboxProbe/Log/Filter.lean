import SandboxProbe.Log.Event
import SandboxProbe.Log.Pattern
import SandboxProbe.Text.Utf8

/-!
# Log filters

Which events are written. A filter is a list of directives, each of which sets the verbosity of some
events: those of a target, those in a span, those with a field. A directive is written as the target,
the span and the field in brackets, an equals sign and the verbosity, each of which may be missing. Of a
filter's directives that are for an event the most exact one decides, and of two that are equally exact
the later one.
-/

namespace SandboxProbe

/-! ## Verbosity -/

/-- The least important level that is written; none at all for `off`. -/
abbrev Verbosity := Option Level

def Level.rank : Level → Nat
  | .error => 1
  | .warn => 2
  | .info => 3
  | .debug => 4
  | .trace => 5

namespace Verbosity

def admits (v : Verbosity) (level : Level) : Bool :=
  match v with
  | none => false
  | some least => level.rank ≤ least.rank

def ofNumber? : Nat → Option Verbosity
  | 0 => some none
  | 1 => some (some .error)
  | 2 => some (some .warn)
  | 3 => some (some .info)
  | 4 => some (some .debug)
  | 5 => some (some .trace)
  | _ => none

def words : List (String × Verbosity) :=
  [("off", none), ("error", some .error), ("warn", some .warn), ("info", some .info),
   ("debug", some .debug), ("trace", some .trace)]

/-- The value of a text of decimal digits, with a plus sign before it or not. -/
def number? (s : List Char) : Option Nat :=
  let digits := Text.Digits.dropPlus s
  if digits ≠ [] ∧ digits.all Text.Digits.isDecimal then some (Text.Digits.value digits) else none

/-- A number up to five, or a word in any case. -/
def ofText? (s : List Char) : Option Verbosity :=
  match number? s with
  | some n => ofNumber? n
  | none => words.lookup (String.ofList (s.map Char.toLower))

end Verbosity

/-! ## Values of fields: numbers and patterns -/

namespace Value

def isDigits (s : List Char) : Bool :=
  s ≠ [] && s.all Text.Digits.isDecimal

def dropSign : List Char → List Char
  | '+' :: r => r
  | '-' :: r => r
  | s => s

/-- Digits with at most one point among them. -/
def isDecimal (s : List Char) : Bool :=
  match s.span (· ≠ '.') with
  | (whole, []) => isDigits whole
  | (whole, _ :: fraction) => isDigits (whole ++ fraction)

/-- A number as it is written, with a sign and a power of ten or without. -/
def isNumber (s : List Char) : Bool :=
  let s := (dropSign s).map Char.toLower
  s = "inf".toList || s = "infinity".toList || s = "nan".toList ||
    match s.span (· ≠ 'e') with
    | (digits, []) => isDecimal digits
    | (digits, _ :: power) => isDecimal digits && isDigits (dropSign power)

def isValue (s : List Char) : Bool :=
  isNumber s || Pattern.isPattern s

end Value

/-! ## Directives -/

/-- A field that has to be there, and what its value has to be like. -/
structure FieldTest where
  name : String
  value : Option String
  deriving DecidableEq, Repr

/-- A name, or a name and a pattern after an equals sign; what follows another one is left out. -/
def FieldTest.ofText? (s : List Char) : Option FieldTest :=
  match s.span (· ≠ '=') with
  | (name, []) => some ⟨String.ofList name, none⟩
  | (name, _ :: r) =>
    let value := r.takeWhile (· ≠ '=')
    if Value.isValue value then some ⟨String.ofList name, some (String.ofList value)⟩ else none

/-- Whether an event has the field. Its value is not looked at, so a test of the value fails. -/
def FieldTest.admits (t : FieldTest) (e : Event) : Bool :=
  t.value.isNone && e.fieldNames.contains t.name

structure Directive where
  target : Option String
  span : Option String
  field : Option FieldTest
  verbosity : Verbosity
  deriving DecidableEq, Repr

namespace Directive

/-- A directive for a target alone, or for everything. -/
def plain (target : Option String) (verbosity : Verbosity) : Directive :=
  ⟨target, none, none, verbosity⟩

/-! ## Reading -/

/-- What a directive may begin with, brackets apart. -/
def mayBegin (c : Char) : Bool :=
  Text.Alphanumeric.isAlphanumeric c || c = '-' || c = ':' || c = '_'

/-- What is being read: nothing yet; a word, which may be a target or a verbosity; the name of a span; a
field; the bracket behind a field; what follows the bracket; the verbosity. -/
inductive Part
  | start
  | word
  | span
  | field
  | bracket
  | closed
  | verbosity
  deriving DecidableEq, Repr

/-- How far reading has come: what has been read of the directive, and the byte at which the part
begins that is being read. -/
structure Reading where
  draft : Directive
  part : Part
  start : Nat

namespace Reading

def begun : Reading := ⟨plain none (some .trace), .start, 0⟩

/-- The text of the part that is being read, if it ends before the byte `stop`. -/
def text? (whole : Bytes) (r : Reading) (stop : Nat) : Option String :=
  Text.Utf8.decode? ((whole.take stop).drop r.start)

/-- One character `c`, which begins at the byte `i`. -/
def next (whole : Bytes) (r : Reading) (i : Nat) (c : Char) : Option Reading :=
  match r.part with
  | .start =>
    if c = '[' then some { r with part := .span, start := i + 1 }
    else if mayBegin c then some { r with part := .word, start := i }
    else none
  | .word =>
    if c = '=' then
      (r.text? whole i).map fun word => ⟨{ r.draft with target := some word }, .verbosity, i + 1⟩
    else if c = '[' then
      (r.text? whole i).map fun word => ⟨{ r.draft with target := some word }, .span, i + 1⟩
    else some r
  | .span =>
    if c = ']' then
      (r.text? whole i).map fun name => ⟨{ r.draft with span := some name }, .closed, i + 1⟩
    else if c = '\x7b' then
      (r.text? whole i).map fun name =>
        ⟨{ r.draft with span := if name = "" then none else some name }, .field, i + 1⟩
    else some r
  | .field =>
    if c = '\x7d' then do
      let text ← r.text? whole i
      if text = "" then none
      else return ⟨{ r.draft with field := some (← FieldTest.ofText? text.toList) }, .bracket, i + 1⟩
    else some r
  | .bracket => if c = ']' then some { r with part := .closed } else none
  | .closed => if c = '=' then some { r with part := .verbosity, start := i + 1 } else none
  | .verbosity => some r

/-- The directive that has been read. A last part that is a word or a verbosity goes on to the end of
the whole text. -/
def finish (whole : Bytes) (r : Reading) : Option Directive :=
  match r.part with
  | .word =>
    (r.text? whole whole.length).map fun last =>
      match Verbosity.ofText? last.toList with
      | some v => { r.draft with verbosity := v }
      | none => { r.draft with target := some last }
  | .closed => some r.draft
  | .verbosity => do
    let last ← r.text? whole whole.length
    if last = "" then return r.draft
    else return { r.draft with verbosity := ← Verbosity.ofText? last.toList }
  | _ => none

def run (whole : Bytes) : (i : Nat) → Reading → List Char → Option Directive
  | _, r, [] => r.finish whole
  | i, r, c :: more => (r.next whole i c).bind (run whole (i + c.utf8Size) · more)

end Reading

/-- A directive as it is written. It is read without the blanks at its ends, but its parts are taken
from the bytes of the text with them: blanks at the end belong to the last part, and blanks at the
beginning shift the parts, which must not break a character off. -/
def ofText? (s : List Char) : Option Directive :=
  Reading.begun.run (Text.Utf8.encodeChars s) 0 (Text.Blank.trim s)

/-! ## What a directive is for -/

/-- Whether a directive is for an event. No event is in a span. -/
def covers (d : Directive) (e : Event) : Bool :=
  d.span.isNone && d.target.all (fun word => word.toList.isPrefixOf e.target.toList) &&
    d.field.all (FieldTest.admits · e)

/-- How much of a target a directive names. -/
def length (d : Directive) : Nat :=
  match d.target with
  | none => 0
  | some word => word.length + 1

/-- The field that a directive names, or nothing. -/
def fieldName (d : Directive) : String :=
  (d.field.map FieldTest.name).getD ""

/-- Whether `d` is more exact than `e`: by its target, or then by its field. -/
def outranks (d e : Directive) : Bool :=
  e.length < d.length || (d.length = e.length && e.fieldName < d.fieldName)

end Directive

/-! ## Filters -/

structure Filter where
  directives : List Directive
  deriving DecidableEq, Repr

namespace Filter

/-- The texts between the commas. -/
def pieces : List Char → List (List Char)
  | [] => [[]]
  | c :: r =>
    if c = ',' then [] :: pieces r
    else
      match pieces r with
      | [] => [[c]]
      | piece :: rest => (c :: piece) :: rest

/-- A text without directives writes errors. -/
def ofText? (s : String) : Option Filter := do
  let directives ← ((pieces s.toList).filter (· ≠ [])).mapM Directive.ofText?
  if directives = [] then return ⟨[.plain none (some .error)]⟩ else return ⟨directives⟩

/-- The one of two directives that decides, the second standing later. -/
def better (d e : Directive) : Directive :=
  if d.outranks e then d else e

def decisive? (f : Filter) (e : Event) : Option Directive :=
  (f.directives.filter (·.covers e)).foldl
    (fun best d => some (best.elim d (better · d))) none

def admits (f : Filter) (e : Event) : Bool :=
  match f.decisive? e with
  | none => false
  | some d => d.verbosity.admits e.level

def standard : Filter := ⟨[.plain none (some .warn)]⟩

end Filter

/-! ## The environment -/

abbrev Environment := String → Option Bytes

namespace Environment

def logVariable : String := "SBX_RUNNER_LOG"

def fallbackLogVariable : String := "RUST_LOG"

/-- The filter that a variable holds, if it is set and holds one. -/
def filter? (env : Environment) (name : String) : Option Filter :=
  ((env name).bind Text.Utf8.decode?).bind Filter.ofText?

def filter (env : Environment) : Filter :=
  ((env.filter? logVariable).or (env.filter? fallbackLogVariable)).getD .standard

end Environment

end SandboxProbe
