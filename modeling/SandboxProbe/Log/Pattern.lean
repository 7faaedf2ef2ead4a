import SandboxProbe.Text.Characters

/-!
# Patterns

Which texts are patterns for the value of a field: atoms, classes in brackets and groups in
parentheses, with alternatives and repetitions, nested not too deep. Only whether a text is a pattern
matters here, because values are looked at on spans and the program has none. An opening brace outside
of classes and comments makes no pattern: a count in braces would end the field that it stands in.

Of the characters above ASCII neither case nor kind is known to patterns, so what depends on them is an
atom of bytes only. A pattern of bytes in its turn matches only whole characters, so nothing in it stands
for a byte above ASCII.
-/

namespace SandboxProbe.Pattern

/-- Whether a pattern is one of Unicode characters or of bytes, whether it matches in any case, and
whether blanks and comments may stand between its parts. The other flags change what is matched, but not
what a pattern is. -/
structure Flags where
  unicode : Bool
  anyCase : Bool
  spaced : Bool
  deriving DecidableEq, Repr

namespace Flags

def initial : Flags := ⟨true, false, false⟩

/-! ## Blanks and comments -/

/-- A text from its first character on that is neither a blank nor, from a number sign to the end of
its line, part of a comment. -/
def skipFrom : (comment : Bool) → List Char → List Char
  | _, [] => []
  | true, c :: r => skipFrom (c ≠ '\n') r
  | false, c :: r =>
    if Text.Blank.isBlank c then skipFrom false r
    else if c = '#' then skipFrom true r
    else c :: r

def skip (f : Flags) (s : List Char) : List Char :=
  if f.spaced then skipFrom false s else s

/-- The next character that is not a blank, past the mark of a comment but not past the comment. -/
def peekFrom : (comment : Bool) → List Char → Option Char
  | _, [] => none
  | comment, c :: r =>
    if Text.Blank.isBlank c then peekFrom comment r
    else if c = '#' ∧ !comment then peekFrom true r
    else some c

def peek? (f : Flags) (s : List Char) : Option Char :=
  if f.spaced then peekFrom false s else s.head?

/-! ## Setting flags -/

def letters : List Char :=
  ['i', 'm', 's', 'U', 'u', 'R', 'x']

/-- Whether a text sets flags, those behind a hyphen to off. Nothing stands in it twice. -/
def areMarks (marks : List Char) : Bool :=
  marks.all (fun c => c = '-' || letters.contains c) && marks.Nodup && marks.getLast? ≠ some '-'

/-- A flag after the marks: as it was, unless its letter is among them. -/
def marked (marks : List Char) (letter : Char) (before : Bool) : Bool :=
  if letter ∈ marks.takeWhile (· ≠ '-') then true
  else if letter ∈ marks then false
  else before

def withMarks (f : Flags) (marks : List Char) : Flags :=
  ⟨marked marks 'u' f.unicode, marked marks 'i' f.anyCase, marked marks 'x' f.spaced⟩

end Flags

/-! ## Opening parentheses -/

/-- What an opening parenthesis begins: a group with the flags inside of it and perhaps a name, or
flags for what follows. -/
inductive Opening
  | group (flags : Flags) (name : Option (List Char))
  | setting (flags : Flags)
  deriving DecidableEq, Repr

/-- Whether a text is the name of a group. -/
def isName : List Char → Bool
  | [] => false
  | c :: r =>
    (c = '_' || Text.Alphanumeric.isAlphabetic c) &&
      r.all fun c => Text.Alphanumeric.isAlphanumeric c || c = '_' || c = '.' || c = '[' || c = ']'

namespace Opening

/-- A group whose name is up to the angle bracket. -/
def named? (f : Flags) (s : List Char) : Option (Opening × List Char) :=
  match s.span (· ≠ '>') with
  | (name, _ :: r) => if isName name then some (.group f (some name), r) else none
  | _ => none

/-- Flags up to a colon, which begins a group, or to a closing parenthesis, before which at least one
is set. -/
def marked? (f : Flags) (s : List Char) : Option (Opening × List Char) :=
  match s.span (fun c => c ≠ ':' ∧ c ≠ ')') with
  | (marks, c :: r) =>
    if !Flags.areMarks marks then none
    else if c = ':' then some (.group (f.withMarks marks) none, r)
    else if marks = [] then none
    else some (.setting (f.withMarks marks), r)
  | _ => none

/-- What follows an opening parenthesis, with the rest of the text. -/
def ofText? (f : Flags) (s : List Char) : Option (Opening × List Char) :=
  match f.skip s with
  | '?' :: 'P' :: '<' :: r => named? f r
  | '?' :: '<' :: r => named? f r
  | '?' :: r => marked? f r
  | r => some (.group f none, r)

end Opening

/-! ## Atoms -/

/-- A character; a character that is written by the two digits of a byte; any character; the beginning
or end of the text or of a line; the beginning or end of a word; a digit, blank or letter, or all but
those. -/
inductive Atom
  | character (c : Char)
  | byte (c : Char)
  | any
  | edge
  | wordEdge
  | kind (complement : Bool)
  deriving DecidableEq, Repr

namespace Atom

/-- The character that may begin or end a range. -/
def char? : Atom → Option Char
  | .character c | .byte c => some c
  | _ => none

/-- Whether the atom may stand in a pattern. -/
def mayStand (f : Flags) : Atom → Bool
  | .character _ => !(f.unicode && f.anyCase)
  | .byte c => if f.unicode then !f.anyCase else c < '\x80'
  | .any => f.unicode
  | .edge => true
  | .wordEdge => !f.unicode
  | .kind complement => !f.unicode && !complement

/-- Whether the atom may stand in a class. -/
def mayBeMember (f : Flags) : Atom → Bool
  | .character c | .byte c => if f.unicode then !f.anyCase else c < '\x80'
  | .kind complement => !f.unicode && !complement
  | _ => false

/-- Whether two atoms are the ends of a range, which goes upwards. -/
def areRange (first last : Atom) : Bool :=
  match first.char?, last.char? with
  | some a, some b => a ≤ b
  | _, _ => false

/-! ## Escapes -/

/-- The character whose code the digits are. -/
def ofHex? (digits : List Nat) : Option Char :=
  let n := digits.foldl (fun n d => n * 16 + d) 0
  if n.isValidChar then some (Char.ofNat n) else none

def hexDigits? (f : Flags) : (count : Nat) → List Char → Option (List Nat × List Char)
  | 0, s => some ([], s)
  | n + 1, s =>
    match f.skip s with
    | [] => none
    | c :: r => do
      let d ← Text.Digits.hex? c
      let (ds, r) ← hexDigits? f n r
      return (d :: ds, r)

/-- How many digits follow an escape that gives a code. -/
def codeLength? (c : Char) : Option Nat :=
  if c = 'x' then some 2 else if c = 'u' then some 4 else if c = 'U' then some 8 else none

/-- The escapes of one letter or mark. -/
def escaped? (c : Char) : Option Atom :=
  if c = 'a' then some (.character '\x07')
  else if c = 'f' then some (.character '\x0C')
  else if c = 'n' then some (.character '\n')
  else if c = 'r' then some (.character '\r')
  else if c = 't' then some (.character '\t')
  else if c = 'v' then some (.character '\x0B')
  else if c = 'A' ∨ c = 'z' then some .edge
  else if c = 'b' ∨ c = 'B' ∨ c = '<' ∨ c = '>' then some .wordEdge
  else if c = 'd' ∨ c = 's' ∨ c = 'w' then some (.kind false)
  else if c = 'D' ∨ c = 'S' ∨ c = 'W' then some (.kind true)
  else if c < '\x80' ∧ !c.isAlphanum then some (.character c)
  else none

/-- What follows a backslash, with the rest of the text. -/
def ofEscape? (f : Flags) : List Char → Option (Atom × List Char)
  | [] => none
  | c :: r =>
    match codeLength? c with
    | none => (escaped? c).map (·, r)
    | some n => do
      let (digits, r) ← hexDigits? f n r
      let d ← ofHex? digits
      return (if n = 2 then .byte d else .character d, r)

/-! ## Members of classes -/

/-- A member of a class that is no range. Escapes apart, every character stands for itself. -/
def ofMember? (f : Flags) (c : Char) (r : List Char) : Option (Atom × List Char) :=
  if c = '\\' then ofEscape? f r else some (.character c, r)

/-- What follows a member of a class or a range that begins with `c`. A hyphen before another one or
before the closing bracket makes no range. -/
def afterMember? (f : Flags) (c : Char) (r : List Char) : Option (List Char) := do
  let (first, r) ← ofMember? f c r
  match f.skip r with
  | '-' :: after =>
    if f.peek? after = some ']' ∨ f.peek? after = some '-' then
      if first.mayBeMember f then some ('-' :: after) else none
    else
      match f.skip after with
      | [] => none
      | d :: r => do
        let (last, r) ← ofMember? f d r
        if areRange first last ∧ first.mayBeMember f ∧ last.mayBeMember f then some r else none
  | r => if first.mayBeMember f then some r else none

end Atom

/-! ## Classes with a name -/

def classNames : List String :=
  ["alnum", "alpha", "ascii", "blank", "cntrl", "digit", "graph", "lower", "print", "punct", "space",
   "upper", "word", "xdigit"]

/-- The name of a class between colons, in a class and behind its bracket: whether all characters but
those of the class are meant, and what follows. -/
def namedClass? : List Char → Option (Bool × List Char)
  | ':' :: r =>
    let complement := r.head? = some '^'
    match (if complement then r.tail else r).span (· ≠ ':') with
    | (name, ':' :: ']' :: r) =>
      if classNames.contains (String.ofList name) then some (complement, r) else none
    | _ => none
  | _ => none

/-- Whether a class with a name may be a member. -/
def mayBeNamed (f : Flags) (complement : Bool) : Bool :=
  if f.unicode then !f.anyCase else !complement

/-! ## Heights -/

/-- How many levels may be nested. -/
def highest : Nat := 250

/-- The height of a sequence. A part alone is no sequence. -/
def sequenceHeight : List Nat → Nat
  | [] => 0
  | [h] => h
  | h :: hs => hs.foldl max h + 1

/-- The height of two things side by side, if there are two. -/
def besideHeight (left : Option Nat) (right : Nat) : Nat :=
  match left with
  | none => right
  | some h => max h right + 1

/-! ## Groups -/

/-- A part of a pattern that has been read. Flags that are set cannot be repeated. -/
structure Item where
  height : Nat
  repeatable : Bool
  deriving DecidableEq, Repr

/-- An open group, or the whole pattern: the flags that hold after it, the height of the alternatives
before the last bar, and the parts since then, the last one first. -/
structure Group where
  after : Flags
  alternatives : Option Nat
  items : List Item
  deriving DecidableEq, Repr

namespace Group

def begun (after : Flags) : Group := ⟨after, none, []⟩

def branchHeight (g : Group) : Nat :=
  sequenceHeight (g.items.map Item.height)

def height (g : Group) : Nat :=
  besideHeight g.alternatives g.branchHeight

def add (g : Group) (item : Item) : Group :=
  { g with items := item :: g.items }

/-- A bar after the group's parts. -/
def bar (g : Group) : Group :=
  { g with alternatives := some (max (g.alternatives.getD 0) g.branchHeight), items := [] }

/-- The last part repeated. -/
def repeated? (g : Group) : Option Group :=
  match g.items with
  | [] => none
  | item :: items =>
    if item.repeatable then some { g with items := ⟨item.height + 1, true⟩ :: items } else none

end Group

/-! ## Classes -/

/-- Where a class stands: before its first member, behind hyphens that came first, or past that. -/
inductive Lead
  | first
  | hyphens
  | past
  deriving DecidableEq, Repr

/-- An open class: the height of what stands before its last operator, and of its members since. -/
structure Class where
  left : Option Nat
  members : List Nat
  lead : Lead
  deriving DecidableEq, Repr

namespace Class

def begun : Class := ⟨none, [], .first⟩

def height (k : Class) : Nat :=
  besideHeight k.left (sequenceHeight k.members)

def add (k : Class) (height : Nat) (lead : Lead) : Class :=
  { k with members := height :: k.members, lead }

/-- An operator after the class's members. -/
def operator (k : Class) : Class :=
  ⟨some k.height, [], .past⟩

/-- Intersection, difference and symmetric difference are written with two of the same mark. -/
def isOperator (c : Char) (r : List Char) : Bool :=
  (c = '&' || c = '-' || c = '~') && r.head? = some c

end Class

/-! ## Reading -/

/-- How far reading has come: the flags, the names of groups so far, the innermost open group and those
around it, and the open classes, the innermost first. -/
structure Reader where
  flags : Flags
  names : List (List Char)
  group : Group
  outer : List Group
  classes : List Class
  deriving DecidableEq, Repr

namespace Reader

def begun : Reader := ⟨.initial, [], .begun .initial, [], []⟩

def add (p : Reader) (item : Item) : Reader :=
  { p with group := p.group.add item }

def addAtom? (p : Reader) (a : Atom) : Option Reader :=
  if a.mayStand p.flags then some (p.add ⟨0, true⟩) else none

/-- No two groups have one name. -/
def open? (p : Reader) : Opening → Option Reader
  | .setting flags => some { p.add ⟨0, false⟩ with flags }
  | .group flags name =>
    if name.any p.names.contains then none
    else some { p with
      flags, names := name.toList ++ p.names,
      group := .begun p.flags, outer := p.group :: p.outer }

def close? (p : Reader) : Option Reader :=
  match p.outer with
  | [] => none
  | g :: outer =>
    some { p with flags := p.group.after, group := g.add ⟨p.group.height + 1, true⟩, outer }

/-- A bracket has been read that opens a class. All characters but those of the class are no pattern of
bytes, because bytes above ASCII are among them. -/
def openClass? (p : Reader) (s : List Char) : Option (Reader × List Char) :=
  let (complement, r) :=
    match p.flags.skip s with
    | '^' :: r => (true, r)
    | r => (false, r)
  if complement ∧ !p.flags.unicode then none
  else some ({ p with classes := .begun :: p.classes }, r)

/-- The innermost class `k` ends. -/
def closeClass (p : Reader) (k : Class) : List Class → Reader
  | [] => { p.add ⟨k.height + 1, true⟩ with classes := [] }
  | l :: outer => { p with classes := l.add (k.height + 1) .past :: outer }

/-- One step outside of classes, which begins with the character `c`. -/
def stepOutside? (p : Reader) (c : Char) (r : List Char) : Option (Reader × List Char) :=
  if c = '(' then do
    let (opening, r) ← Opening.ofText? p.flags r
    return (← p.open? opening, r)
  else if c = ')' then p.close?.map (·, r)
  else if c = '|' then some ({ p with group := p.group.bar }, r)
  else if c = '?' ∨ c = '*' ∨ c = '+' then
    p.group.repeated?.map fun group =>
      ({ p with group }, if r.head? = some '?' then r.tail else r)
  else if c = '\x7b' then none
  else if c = '[' then p.openClass? r
  else if c = '\\' then do
    let (a, r) ← Atom.ofEscape? p.flags r
    return (← p.addAtom? a, r)
  else
    let a : Atom := if c = '.' then .any else if c = '^' ∨ c = '$' then .edge else .character c
    (p.addAtom? a).map (·, r)

/-- One step in the class `k`. Hyphens that come first are members, and so is a closing bracket that
comes first. -/
def stepInside? (p : Reader) (k : Class) (outer : List Class) (c : Char) (r : List Char) :
    Option (Reader × List Char) :=
  let inner (k : Class) : Reader := { p with classes := k :: outer }
  if c = '-' ∧ k.lead ≠ .past then
    if (Atom.character c).mayBeMember p.flags then some (inner (k.add 0 .hyphens), r) else none
  else if c = ']' ∧ k.lead = .first then
    if (Atom.character c).mayBeMember p.flags then some (inner (k.add 0 .past), r) else none
  else if c = ']' then some (p.closeClass k outer, r)
  else if c = '[' then
    match namedClass? r with
    | some (complement, r) =>
      if mayBeNamed p.flags complement then some (inner (k.add 0 .past), r) else none
    | none => (inner { k with lead := .past }).openClass? r
  else if Class.isOperator c r then some (inner k.operator, r.tail)
  else (Atom.afterMember? p.flags c r).map fun r => (inner (k.add 0 .past), r)

def step? (p : Reader) (c : Char) (r : List Char) : Option (Reader × List Char) :=
  match p.classes with
  | [] => p.stepOutside? c r
  | k :: outer => p.stepInside? k outer c r

/-- The reader after a text. Each step takes at least one character, so a text has no more steps than
characters. -/
def run? : (steps : Nat) → Reader → List Char → Option Reader
  | steps, p, s =>
    match p.flags.skip s, steps with
    | [], _ => some p
    | _ :: _, 0 => none
    | c :: r, n + 1 => (p.step? c r).bind fun (p, r) => run? n p r

/-- Whether what has been read is a pattern. -/
def isFinished (p : Reader) : Bool :=
  p.outer = [] && p.classes = [] && p.group.height ≤ highest

end Reader

/-- Whether a text is a pattern. -/
def isPattern (s : List Char) : Bool :=
  (Reader.begun.run? s.length s).any Reader.isFinished

end SandboxProbe.Pattern
