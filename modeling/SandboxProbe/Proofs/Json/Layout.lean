import Mathlib.Data.List.Forall2
import SandboxProbe.Proofs.Json.RoundTrip
import SandboxProbe.Proofs.Text.Lines

/-!
# The lines of a printed object

A `Row` is what a line of a printed object begins with: a key at its depth, or a brace that stands
alone. `laid_pretty`: the lines of an object show the rows of its fields, whatever texts the fields
hold, and none of them holds a control character. `Shown.unique`: a line shows one row.
-/

namespace SandboxProbe.Json

inductive Row
  | opening
  | field (depth : Nat) (key : String)
  | closing (depth : Nat)
  deriving DecidableEq, Repr

namespace Row

def Begins (line : List Char) : Row → Prop
  | opening => line = ['\x7b']
  | field depth key => ∃ rest, line = indent depth ++ (printString key ++ ':' :: ' ' :: rest)
  | closing depth => ∃ rest, line = indent depth ++ '\x7d' :: rest

end Row

def Plain (text : List Char) : Prop :=
  ∀ c ∈ text, 0x20 ≤ c.toNat

structure Shown (line : List Char) (row : Row) : Prop where
  plain : Plain line
  begins : row.Begins line

/-- The text, its last line not yet ended, shows these rows. -/
def Laid (text : List Char) (rows : List Row) : Prop :=
  List.Forall₂ Shown (Text.lines (text ++ ['\n'])) rows

mutual

/-- The rows of a value inside `depth` objects that stand below its first line. -/
def rowsBelow (depth : Nat) : Json → List Row
  | .object (f :: fs) => rows (depth + 1) (f :: fs) ++ [.closing depth]
  | _ => []

def rows (depth : Nat) : List (String × Json) → List Row
  | [] => []
  | (k, v) :: fs => .field depth k :: rowsBelow depth v ++ rows depth fs

end

/-! ## Control characters -/

theorem plain_append {a b : List Char} : Plain (a ++ b) ↔ Plain a ∧ Plain b :=
  List.forall_mem_append

theorem plain_cons {c : Char} {a : List Char} : Plain (c :: a) ↔ 0x20 ≤ c.toNat ∧ Plain a :=
  List.forall_mem_cons

theorem plain_nil : Plain [] := by
  simp [Plain]

theorem Plain.lineFeed_notMem {text : List Char} (h : Plain text) : '\n' ∉ text := by
  intro hm
  exact absurd (h '\n' hm) (by decide)

theorem plain_hexDigit : ∀ n < 16, 0x20 ≤ (hexDigit n).toNat := by
  decide

theorem plain_escape (c : Char) : Plain (escape c) := by
  unfold escape Plain
  split; · simp
  split; · simp
  split; · simp
  split; · simp
  split; · simp
  split; · simp
  split; · simp
  split
  · rename_i hc
    have hlt : c.toNat < 32 := hc
    have hhigh := plain_hexDigit (c.toNat / 16) (by omega)
    have hlow := plain_hexDigit (c.toNat % 16) (by omega)
    simp [hhigh, hlow]
  · rename_i hc
    have hle : ' '.toNat ≤ c.toNat := Char.not_lt.mp hc
    simpa using hle

theorem plain_printString (s : String) : Plain (printString s) := by
  unfold printString
  rw [plain_append, plain_cons]
  refine ⟨⟨by decide, fun d hd => ?_⟩, by simp [Plain]⟩
  obtain ⟨c, -, hc⟩ := List.mem_flatMap.mp hd
  exact plain_escape c d hc

theorem plain_digits (n : Nat) : Plain (Nat.toDigits 10 n) := by
  intro c hc
  have hdigit := isDecimal_of_mem_toDigits hc
  simp only [Text.Digits.isDecimal, Bool.and_eq_true, decide_eq_true_eq] at hdigit
  have hle : '0'.toNat ≤ c.toNat := hdigit.1
  exact Nat.le_trans (by decide) hle

theorem plain_printNumber (n : Int) : Plain (printNumber n) := by
  cases n with
  | ofNat n => exact plain_digits n
  | negSucc n => exact plain_cons.mpr ⟨by decide, plain_digits (n + 1)⟩

theorem plain_indent (depth : Nat) : Plain (indent depth) := by
  intro c hc
  simp [List.eq_of_mem_replicate hc]

/-! ## Lines and rows -/

theorem Shown.laid {line : List Char} {row : Row} (h : Shown line row) : Laid line [row] := by
  unfold Laid
  rw [Text.lines_append h.plain.lineFeed_notMem]
  exact .cons h .nil

theorem Laid.append {a b : List Char} {above under : List Row} (ha : Laid a above)
    (hb : Laid b under) : Laid (a ++ '\n' :: b) (above ++ under) := by
  unfold Laid
  rw [List.append_assoc, List.cons_append, Text.lines_append_end]
  exact List.rel_append ha hb

theorem shown_closing {depth : Nat} {tail : List Char} (h : Plain tail) :
    Shown (indent depth ++ '\x7d' :: tail) (.closing depth) where
  plain := plain_append.mpr ⟨plain_indent depth, plain_cons.mpr ⟨by decide, h⟩⟩
  begins := ⟨tail, rfl⟩

/-- What stands before the value of a field in its line. -/
def start (depth : Nat) (key : String) : List Char :=
  indent depth ++ (printString key ++ [':', ' '])

theorem shown_field {depth : Nat} {key : String} {rest : List Char} (h : Plain rest) :
    Shown (start depth key ++ rest) (.field depth key) where
  plain := by
    have hcolon : Plain [':', ' '] := by simp [Plain]
    unfold start
    simp only [plain_append]
    exact ⟨⟨plain_indent depth, plain_printString key, hcolon⟩, h⟩
  begins := ⟨rest, by simp [start]⟩

theorem laid_object {depth : Nat} {row : Row} {before tail : List Char}
    {fields : List (String × Json)} (hrow : Shown (before ++ ['\x7b']) row)
    (hfields : Laid (printFields (depth + 1) fields) (rows (depth + 1) fields))
    (ht : Plain tail) :
    Laid (before ++ ('\x7b' :: '\n' :: printFields (depth + 1) fields ++
        '\n' :: indent depth ++ ['\x7d']) ++ tail)
      (row :: rows (depth + 1) fields ++ [.closing depth]) := by
  have hclosing : Shown (indent depth ++ '\x7d' :: tail) (.closing depth) := shown_closing ht
  have hlaid := (hrow.laid.append hfields).append hclosing.laid
  simpa using hlaid

/-- A value that is no object stays in the line of its key. -/
theorem laid_scalar {depth : Nat} {key : String} {text tail : List Char} (h : Plain text)
    (ht : Plain tail) : Laid (start depth key ++ text ++ tail) [.field depth key] := by
  rw [List.append_assoc]
  exact (shown_field (plain_append.mpr ⟨h, ht⟩)).laid

mutual

theorem laid_print (depth : Nat) (key : String) {tail : List Char} (ht : Plain tail) :
    ∀ v : Json, Laid (start depth key ++ print depth v ++ tail)
      (.field depth key :: rowsBelow depth v)
  | .null => by
    rw [print]
    exact laid_scalar (by simp [Plain]) ht
  | .bool true => by
    rw [print]
    exact laid_scalar (by simp [Plain]) ht
  | .bool false => by
    rw [print]
    exact laid_scalar (by simp [Plain]) ht
  | .number n => by
    rw [print]
    exact laid_scalar (plain_printNumber n) ht
  | .string s => by
    rw [print]
    exact laid_scalar (plain_printString s) ht
  | .object [] => by
    rw [print]
    exact laid_scalar (by simp [Plain]) ht
  | .object (f :: fs) => by
    have hopen : Shown (start depth key ++ ['\x7b']) (.field depth key) :=
      shown_field (by simp [Plain])
    rw [print]
    exact laid_object hopen (laid_printFields (depth + 1) (f :: fs) (by simp)) ht

theorem laid_printFields (depth : Nat) :
    ∀ fields : List (String × Json), fields ≠ [] →
      Laid (printFields depth fields) (rows depth fields)
  | [], h => absurd rfl h
  | [(k, v)], _ => by
    have hlaid := laid_print depth k plain_nil v
    simpa [printFields, rows, start] using hlaid
  | (k, v) :: g :: fs, _ => by
    have hcomma : Plain [','] := by simp [Plain]
    have hfirst := laid_print depth k hcomma v
    have hrest := laid_printFields depth (g :: fs) (by simp)
    simpa [printFields, rows, start] using hfirst.append hrest

end

theorem laid_pretty (f : String × Json) (fs : List (String × Json)) :
    Laid (pretty (.object (f :: fs))).toList (.opening :: rowsBelow 0 (.object (f :: fs))) := by
  have hopen : Shown ([] ++ ['\x7b']) .opening := ⟨by simp [Plain], rfl⟩
  have hfields := laid_printFields 1 (f :: fs) (by simp)
  have hlaid := laid_object hopen hfields plain_nil
  rw [pretty, String.toList_ofList, print, rowsBelow]
  simpa using hlaid

theorem pretty_ends (f : String × Json) (fs : List (String × Json)) :
    ∃ before, (pretty (.object (f :: fs))).toList = before ++ ['\x7d'] := by
  rw [pretty, String.toList_ofList, print]
  exact ⟨_, rfl⟩

theorem plain_of_shown {lines : List (List Char)} {shape : List Row}
    (h : List.Forall₂ Shown lines shape) : ∀ line ∈ lines, Plain line := by
  have hparts : List.Forall₂ (fun line row => Plain line ∧ row.Begins line) lines shape :=
    h.imp fun _ _ hs => ⟨hs.plain, hs.begins⟩
  exact ((List.forall₂_and_left lines shape).mp hparts).1

/-! ## A line shows one row -/

namespace Row

def depth : Row → Nat
  | opening => 0
  | field depth _ => depth
  | closing depth => depth

/-- The first character of a line behind its blanks. -/
def mark : Row → Char
  | opening => '\x7b'
  | field .. => '"'
  | closing _ => '\x7d'

theorem mark_not_blank (row : Row) : isBlank row.mark = false := by
  cases row <;> rfl

theorem Begins.mark {line : List Char} {row : Row} (h : row.Begins line) :
    ∃ rest, line = indent row.depth ++ row.mark :: rest := by
  cases row with
  | opening => exact ⟨[], h⟩
  | field depth key =>
    obtain ⟨rest, h⟩ := h
    exact ⟨_, h⟩
  | closing depth => exact h

end Row

theorem indent_inj {d d' : Nat} {c c' : Char} {a b : List Char} (hc : isBlank c = false)
    (hc' : isBlank c' = false) (h : indent d ++ c :: a = indent d' ++ c' :: b) :
    d = d' ∧ c = c' ∧ a = b := by
  have hskip := congrArg skipBlanks h
  rw [skipBlanks_indent, skipBlanks_indent, skipBlanks_cons _ hc, skipBlanks_cons _ hc'] at hskip
  obtain ⟨rfl, rfl⟩ := List.cons.inj hskip
  have hlength := congrArg List.length (List.append_cancel_right h)
  simp only [indent, List.length_replicate] at hlength
  exact ⟨by omega, rfl, rfl⟩

theorem printString_inj {k k' : String} {a b : List Char}
    (h : printString k ++ a = printString k' ++ b) : k = k' := by
  have hread := congrArg (fun s => readString s.tail) h
  simp only [printString, List.cons_append, List.append_assoc, List.nil_append, List.tail_cons,
    readString_printString, Option.some.injEq, Prod.mk.injEq] at hread
  exact String.toList_inj.mp hread.1

theorem Shown.unique {line : List Char} {row row' : Row} (h : Shown line row)
    (h' : Shown line row') : row = row' := by
  obtain ⟨a, ha⟩ := h.begins.mark
  obtain ⟨b, hb⟩ := h'.begins.mark
  obtain ⟨hdepth, hmark, -⟩ :=
    indent_inj row.mark_not_blank row'.mark_not_blank (ha.symm.trans hb)
  cases row with
  | opening =>
    cases row' with
    | opening => rfl
    | field => simp [Row.mark] at hmark
    | closing => simp [Row.mark] at hmark
  | field depth key =>
    cases row' with
    | opening => simp [Row.mark] at hmark
    | field depth' key' =>
      obtain rfl : depth = depth' := hdepth
      obtain ⟨r, hr⟩ := h.begins
      obtain ⟨r', hr'⟩ := h'.begins
      rw [printString_inj (List.append_cancel_left (hr.symm.trans hr'))]
    | closing => simp [Row.mark] at hmark
  | closing depth =>
    cases row' with
    | opening => simp [Row.mark] at hmark
    | field => simp [Row.mark] at hmark
    | closing depth' => rw [show depth = depth' from hdepth]

theorem shown_rows_unique {lines : List (List Char)} {shape shape' : List Row}
    (h : List.Forall₂ Shown lines shape) (h' : List.Forall₂ Shown lines shape') :
    shape = shape' := by
  have hunique : Relator.RightUnique Shown := by
    intro line row row' h h'
    exact h.unique h'
  exact List.right_unique_forall₂' hunique h h'

end SandboxProbe.Json
