import SandboxProbe.Log.Filter
import SandboxProbe.Proofs.Log.Pattern
import SandboxProbe.Proofs.Text.Characters
import SandboxProbe.Proofs.Text.Utf8

/-!
# How directives are written

The forms of a directive, said without reading it, and what each means. `ofText?_eq_some_iff` says that a
text is read as a directive exactly if it is written in a form that means it; blanks at its end belong to
its last part.
-/

namespace SandboxProbe

/-! ## Values and fields -/

namespace Value

theorem span_ne {s : List Char} {m : Char} : (∀ c ∈ s, decide (c ≠ m) = true) ↔ m ∉ s :=
  ⟨fun h hm => by simpa using h m hm, fun h c hc => decide_eq_true fun e : c = m => h (e ▸ hc)⟩

theorem isNumber_of_isDigits {s : List Char} (h : isDigits s) : isNumber s ∧ isNumber ('-' :: s) := by
  have digits : ∀ c ∈ s, Text.Digits.isDecimal c := by
    simp only [isDigits, Bool.and_eq_true] at h
    exact List.all_eq_true.mp h.2
  have lower : s.map Char.toLower = s :=
    (List.map_congr_left fun c hc => Text.Digits.toLower_of_isDecimal (digits c hc)).trans (List.map_id _)
  have without {m : Char} (hm : ¬ Text.Digits.isDecimal m) : m ∉ s := fun h => hm (digits m h)
  have unsigned : dropSign s = s := by
    unfold dropSign
    split
    · exact absurd List.mem_cons_self (without (m := '+') (by decide))
    · exact absurd List.mem_cons_self (without (m := '-') (by decide))
    · rfl
  have decimal : isDecimal s := by
    rw [isDecimal, Pattern.span_of_all (span_ne.mpr (without (by decide)))]
    exact h
  have core : ∀ t, dropSign t = s → isNumber t := by
    intro t ht
    simp only [isNumber, ht, lower, Pattern.span_of_all (span_ne.mpr (without (m := 'e') (by decide))),
      decimal, Bool.or_true]
  exact ⟨core s unsigned, core ('-' :: s) rfl⟩

theorem isValue_int (n : Int) : isValue (toString n).toList := by
  have digits (m : Nat) : isDigits (Nat.toDigits 10 m) := by
    simp only [isDigits, Bool.and_eq_true, decide_eq_true_eq]
    exact ⟨Nat.toDigits_ne_nil, List.all_eq_true.mpr fun c hc =>
      Nat.isDigit_of_mem_toDigits (by decide) (by decide) hc⟩
  rw [isValue, Bool.or_eq_true]
  left
  cases n with
  | ofNat m =>
    rw [show (toString (Int.ofNat m)).toList = Nat.toDigits 10 m by simp [toString, Int.repr, Nat.repr]]
    exact (isNumber_of_isDigits (digits m)).1
  | negSucc m =>
    rw [show (toString (Int.negSucc m)).toList = '-' :: Nat.toDigits 10 (m + 1) by
      simp [toString, Int.repr, Nat.repr]]
    exact (isNumber_of_isDigits (digits (m + 1))).2

end Value

/-- A field is written as its name, or as its name, an equals sign and a value; what follows another
equals sign does not count. -/
theorem FieldTest.ofText?_eq_some_iff {s : List Char} {t : FieldTest} :
    ofText? s = some t ↔ ∃ name, '=' ∉ name ∧ t.name = String.ofList name ∧
      (s = name ∧ t.value = none ∨
        ∃ value rest, '=' ∉ value ∧ (∀ c ∈ rest.head?, c = '=') ∧ s = name ++ '=' :: (value ++ rest) ∧
          Value.isValue value ∧ t.value = some (String.ofList value)) := by
  obtain ⟨name, value⟩ := t
  constructor
  · intro h
    rw [ofText?] at h
    rcases hs : s.span (· ≠ '=') with ⟨a, _ | ⟨c, r⟩⟩
    · obtain ⟨rfl, ha, -⟩ := Pattern.span_eq hs
      rw [hs] at h
      cases h
      exact ⟨a, Value.span_ne.mp ha, rfl, .inl ⟨List.append_nil a, rfl⟩⟩
    · obtain ⟨rfl, ha, hc⟩ := Pattern.span_eq hs
      obtain rfl : c = '=' := by simpa using hc c rfl
      obtain ⟨hr, hv, hrest⟩ := Pattern.span_eq (List.span_eq_takeWhile_dropWhile (· ≠ '=') r)
      have hrest : ∀ c ∈ (r.dropWhile (· ≠ '=')).head?, c = '=' := fun c hc => by simpa using hrest c hc
      rw [hs] at h
      obtain ⟨isValue, h⟩ := Option.ite_none_right_eq_some.mp h
      cases h
      exact ⟨a, Value.span_ne.mp ha, rfl, .inr ⟨_, _, Value.span_ne.mp hv, hrest,
        congrArg (a ++ '=' :: ·) hr, isValue, rfl⟩⟩
  · rintro ⟨name, hn, rfl, ⟨rfl, rfl⟩ | ⟨value, rest, hv, hr, rfl, isValue, rfl⟩⟩
    · rw [ofText?, Pattern.span_of_all (Value.span_ne.mpr hn)]
    · have whole : (name ++ '=' :: (value ++ rest)).span (· ≠ '=') = (name, '=' :: (value ++ rest)) :=
        Pattern.span_append (Value.span_ne.mpr hn) (by simp)
      have behind : (value ++ rest).span (· ≠ '=') = (value, rest) :=
        Pattern.span_append (Value.span_ne.mpr hv) (by simpa using hr)
      rw [List.span_eq_takeWhile_dropWhile, Prod.mk.injEq] at behind
      simp only [ofText?, whole, behind.1, isValue, if_true]

namespace Directive

open Text.Utf8

/-! ## Forms -/

/-- A span and a field in brackets. -/
structure Bracket where
  span : List Char
  field : Option (List Char)

structure Form where
  target : List Char
  bracket : Option Bracket
  level : Option (List Char)

namespace Bracket

def written (b : Bracket) : List Char :=
  '[' :: b.span ++ (b.field.elim [] fun f => '\x7b' :: f ++ ['\x7d']) ++ [']']

structure WellFormed (b : Bracket) : Prop where
  span : ']' ∉ b.span ∧ '\x7b' ∉ b.span
  field : ∀ f ∈ b.field, f ≠ [] ∧ '\x7d' ∉ f

/-- The span that is meant. No name before a field means no span. -/
def name (b : Bracket) : Option String :=
  if b.span = [] ∧ b.field.isSome then none else some (String.ofList b.span)

end Bracket

namespace Form

def written (w : Form) : List Char :=
  w.target ++ (w.bracket.elim [] Bracket.written) ++ (w.level.elim [] ('=' :: ·))

structure WellFormed (w : Form) : Prop where
  target : '=' ∉ w.target ∧ '[' ∉ w.target
  begins : ∀ c ∈ w.target.head?, mayBegin c
  bracket : ∀ b ∈ w.bracket, b.WellFormed
  ne_nil : w.target = [] → w.bracket ≠ none

/-- The verbosity that a text behind an equals sign means. -/
def levelOf? (level : List Char) : Option Verbosity :=
  if level = [] then some (some .trace) else Verbosity.ofText? level

/-- What a form means with `tail` behind it. -/
def meaning? (w : Form) (tail : List Char) : Option Directive :=
  match w.bracket, w.level with
  | none, none =>
    match Verbosity.ofText? (w.target ++ tail) with
    | some v => some (plain none v)
    | none => some (plain (some (String.ofList (w.target ++ tail))) (some .trace))
  | bracket, level => do
    let field ← (bracket.bind Bracket.field).mapM FieldTest.ofText?
    let verbosity ← level.elim (some (some .trace)) fun l => levelOf? (l ++ tail)
    return {
      target := if w.target = [] then none else some (String.ofList w.target)
      span := bracket.bind Bracket.name
      field, verbosity }

end Form

/-! ## Reading a form -/

namespace Reading

variable {whole : Bytes} {a part rest l tail : List Char} {draft d : Directive} {r : Reading} {c : Char}

/-- The byte behind some characters. -/
def pos (a : List Char) : Nat := (encodeChars a).length

theorem encodeChars_append (a b : List Char) :
    encodeChars (a ++ b) = encodeChars a ++ encodeChars b := List.flatMap_append

theorem pos_append (a b : List Char) : pos (a ++ b) = pos a + pos b := by
  rw [pos, encodeChars_append, List.length_append]
  rfl

theorem pos_singleton (c : Char) : pos [c] = c.utf8Size := by
  simp [pos, encodeChars]

/-- The marks of a directive are one byte long. -/
theorem pos_mark (a : List Char) (hc : c.utf8Size = 1) : pos (a ++ [c]) = pos a + 1 := by
  rw [pos_append, pos_singleton, hc]

theorem text?_eq {p : Part} (hw : whole = encodeChars (a ++ part ++ rest)) :
    text? whole ⟨draft, p, pos a⟩ (pos (a ++ part)) = some (String.ofList part) := by
  have bytes : (whole.take (pos (a ++ part))).drop (pos a) = encode (String.ofList part) := by
    unfold pos
    rw [hw, encodeChars_append (a ++ part), List.take_left, encodeChars_append, List.drop_left, encode,
      String.toList_ofList]
  rw [text?, bytes, decode?_encode]

theorem run_cons {r' : Reading} (h : r.next whole (pos a) c = some r') :
    r.run whole (pos a) (c :: rest) = r'.run whole (pos (a ++ [c])) rest := by
  rw [run, h, Option.bind_some, pos_append, pos_singleton]

theorem run_part (h : ∀ c ∈ part, ∀ i, r.next whole i c = some r) :
    r.run whole (pos a) (part ++ rest) = r.run whole (pos (a ++ part)) rest := by
  induction part generalizing a with
  | nil => rw [List.append_nil]; rfl
  | cons c part ih =>
    rw [List.cons_append, run_cons (h c List.mem_cons_self _),
      ih fun x hx => h x (List.mem_cons_of_mem c hx), List.append_assoc]
    rfl

/-! ### The last part -/

theorem run_verbosity (hw : whole = encodeChars (a ++ l ++ tail)) (hd : draft.verbosity = some .trace) :
    run whole (pos a) ⟨draft, .verbosity, pos a⟩ l =
      (Form.levelOf? (l ++ tail)).map fun v => { draft with verbosity := v } := by
  have whole_eq : whole = encodeChars (a ++ (l ++ tail) ++ []) := by simp [hw]
  have last : text? whole ⟨draft, .verbosity, pos a⟩ whole.length = some (String.ofList (l ++ tail)) := by
    rw [show whole.length = pos (a ++ (l ++ tail)) by simp [pos, hw]]
    exact text?_eq whole_eq
  rw [← List.append_nil l, run_part fun _ _ _ => rfl, run, finish, List.append_nil, Form.levelOf?]
  simp only [last, Option.bind_eq_bind, Option.bind_some]
  by_cases hl : l ++ tail = []
  · simp [hl, ← hd]
  · have hne : String.ofList (l ++ tail) ≠ "" := fun h => hl (by simpa using congrArg String.toList h)
    rw [if_neg hne, if_neg hl, String.toList_ofList]
    cases Verbosity.ofText? (l ++ tail) <;> rfl

/-- Behind a bracket there is nothing more, or a verbosity. -/
theorem run_closed (draft : Directive) {start : Nat} {level : Option (List Char)}
    (hw : whole = encodeChars (a ++ level.elim [] ('=' :: ·) ++ tail))
    (hd : draft.verbosity = some .trace) :
    run whole (pos a) ⟨draft, .closed, start⟩ (level.elim [] ('=' :: ·)) =
      (level.elim (some (some .trace)) fun l => Form.levelOf? (l ++ tail)).map fun v =>
        { draft with verbosity := v } := by
  cases level with
  | none =>
    rw [Option.elim_none, run, finish, Option.elim_none, Option.map_some, ← hd]
  | some l =>
    have next_eq : next whole ⟨draft, .closed, start⟩ (pos a) '=' =
        some ⟨draft, .verbosity, pos (a ++ ['='])⟩ := by
      rw [pos_mark a rfl]
      rfl
    rw [Option.elim_some, run_cons next_eq]
    exact run_verbosity (by simpa using hw) hd

/-! ### Brackets -/

theorem next_span (h : c ≠ ']' ∧ c ≠ '\x7b') (i start : Nat) :
    next whole ⟨draft, .span, start⟩ i c = some ⟨draft, .span, start⟩ := by
  simp [next, h]

theorem next_field (h : c ≠ '\x7d') (i start : Nat) :
    next whole ⟨draft, .field, start⟩ i c = some ⟨draft, .field, start⟩ := by
  simp [next, h]

theorem ofList_eq_empty {s : List Char} : String.ofList s = "" ↔ s = [] := by
  rw [← String.toList_inj, String.toList_ofList]
  rfl

theorem run_span (h : ']' ∉ part ∧ '\x7b' ∉ part) (hw : whole = encodeChars (a ++ part ++ ']' :: rest)) :
    run whole (pos a) ⟨draft, .span, pos a⟩ (part ++ ']' :: l) =
      run whole (pos (a ++ part ++ [']']))
        ⟨{ draft with span := some (String.ofList part) }, .closed, pos (a ++ part ++ [']'])⟩ l := by
  rw [run_part fun c hc i => next_span ⟨fun e => h.1 (e ▸ hc), fun e => h.2 (e ▸ hc)⟩ i _]
  apply run_cons
  rw [pos_mark _ rfl, next, if_pos rfl, text?_eq hw]
  rfl

theorem run_span_field (h : ']' ∉ part ∧ '\x7b' ∉ part)
    (hw : whole = encodeChars (a ++ part ++ '\x7b' :: rest)) :
    run whole (pos a) ⟨draft, .span, pos a⟩ (part ++ '\x7b' :: l) =
      run whole (pos (a ++ part ++ ['\x7b']))
        ⟨{ draft with span := if part = [] then none else some (String.ofList part) }, .field,
          pos (a ++ part ++ ['\x7b'])⟩ l := by
  rw [run_part fun c hc i => next_span ⟨fun e => h.1 (e ▸ hc), fun e => h.2 (e ▸ hc)⟩ i _]
  apply run_cons
  rw [pos_mark _ rfl, next, if_neg (show ¬ '\x7b' = ']' by decide), if_pos rfl,
    text?_eq hw]
  simp only [Option.map_some, ofList_eq_empty]

theorem run_field (hp : part ≠ []) (h : '\x7d' ∉ part)
    (hw : whole = encodeChars (a ++ part ++ '\x7d' :: ']' :: rest)) :
    run whole (pos a) ⟨draft, .field, pos a⟩ (part ++ '\x7d' :: ']' :: l) =
      (FieldTest.ofText? part).bind fun field =>
        run whole (pos (a ++ part ++ ['\x7d', ']']))
          ⟨{ draft with field := some field }, .closed, pos (a ++ part ++ ['\x7d'])⟩ l := by
  have next_eq : next whole ⟨draft, .field, pos a⟩ (pos (a ++ part)) '\x7d' =
      (FieldTest.ofText? part).map fun field =>
        ⟨{ draft with field := some field }, .bracket, pos (a ++ part ++ ['\x7d'])⟩ := by
    rw [pos_mark _ rfl, next, if_pos rfl, text?_eq hw]
    simp only [Option.bind_eq_bind, Option.bind_some, ofList_eq_empty, if_neg hp, String.toList_ofList]
    cases FieldTest.ofText? part <;> rfl
  rw [run_part fun c hc i => next_field (fun e => h (e ▸ hc)) i _]
  cases hf : FieldTest.ofText? part with
  | none => rw [run, next_eq, hf, Option.map_none, Option.bind_none, Option.bind_none]
  | some field =>
    rw [hf, Option.map_some] at next_eq
    rw [run_cons next_eq, run_cons rfl, Option.bind_some, List.append_assoc _ ['\x7d']]
    rfl

theorem run_bracket {b : Bracket} (wf : b.WellFormed) {level : Option (List Char)}
    (hw : whole = encodeChars (a ++ b.written ++ level.elim [] ('=' :: ·) ++ tail))
    (hd : draft.verbosity = some .trace) (hf : draft.field = none) :
    run whole (pos (a ++ ['['])) ⟨draft, .span, pos (a ++ ['['])⟩
        (b.written.tail ++ level.elim [] ('=' :: ·)) =
      do
        let field ← b.field.mapM FieldTest.ofText?
        let verbosity ← level.elim (some (some .trace)) fun l => Form.levelOf? (l ++ tail)
        return { draft with span := b.name, field, verbosity } := by
  obtain ⟨span, field⟩ := b
  have hspan : ']' ∉ span ∧ '\x7b' ∉ span := wf.span
  cases field with
  | none =>
    have inside : (Bracket.written ⟨span, none⟩).tail ++ level.elim [] ('=' :: ·) =
        span ++ ']' :: level.elim [] ('=' :: ·) := by
      simp [Bracket.written]
    have hw : whole = encodeChars (a ++ ['['] ++ span ++ ']' :: (level.elim [] ('=' :: ·) ++ tail)) := by
      simp [hw, Bracket.written]
    rw [inside, run_span hspan hw,
      run_closed { draft with span := some (String.ofList span) } (by simpa using hw) hd]
    cases level.elim (some (some .trace)) fun l => Form.levelOf? (l ++ tail) with
    | none => rfl
    | some v => simp [Bracket.name, ← hf]
  | some f =>
    obtain ⟨hne, hfield⟩ := wf.field f rfl
    have inside : (Bracket.written ⟨span, some f⟩).tail ++ level.elim [] ('=' :: ·) =
        span ++ '\x7b' :: (f ++ '\x7d' :: ']' :: level.elim [] ('=' :: ·)) := by
      simp [Bracket.written]
    have hw : whole = encodeChars (a ++ ['['] ++ span ++
        '\x7b' :: (f ++ '\x7d' :: ']' :: (level.elim [] ('=' :: ·) ++ tail))) := by
      simp [hw, Bracket.written]
    have hw' : whole = encodeChars (a ++ ['['] ++ span ++ ['\x7b'] ++ f ++
        '\x7d' :: ']' :: (level.elim [] ('=' :: ·) ++ tail)) := by
      simpa using hw
    rw [inside, run_span_field hspan hw, run_field hne hfield hw']
    simp only [Option.mapM_some]
    cases hfield : FieldTest.ofText? f with
    | none => rfl
    | some field =>
      simp only [Option.bind_some]
      rw [run_closed
        { draft with span := if span = [] then none else some (String.ofList span), field := some field }
        (by simpa using hw') hd]
      cases level.elim (some (some .trace)) fun l => Form.levelOf? (l ++ tail) with
      | none => rfl
      | some v => simp [Bracket.name]

/-! ### Whole forms -/

theorem next_word (h : c ≠ '=' ∧ c ≠ '[') (i start : Nat) :
    next whole ⟨draft, .word, start⟩ i c = some ⟨draft, .word, start⟩ := by
  simp [next, h]

theorem run_target {target : List Char} (hne : target ≠ []) (h : '=' ∉ target ∧ '[' ∉ target)
    (hb : ∀ c ∈ target.head?, mayBegin c) :
    begun.run whole 0 (target ++ rest) =
      run whole (pos target) ⟨begun.draft, .word, 0⟩ rest := by
  obtain ⟨c, r, rfl⟩ := List.exists_cons_of_ne_nil hne
  have hc : c ≠ '[' := fun e => h.2 (e ▸ List.mem_cons_self)
  have next_eq : begun.next whole (pos []) c = some ⟨begun.draft, .word, 0⟩ := by
    rw [next, begun, if_neg hc, if_pos (hb c rfl)]
    rfl
  rw [List.cons_append, show 0 = pos [] from rfl, run_cons next_eq]
  exact run_part fun x hx i => next_word ⟨fun e => h.1 (List.mem_cons_of_mem c (e ▸ hx)),
    fun e => h.2 (List.mem_cons_of_mem c (e ▸ hx))⟩ i _

theorem text?_target {target : List Char} (hw : whole = encodeChars (target ++ rest)) :
    text? whole ⟨begun.draft, .word, 0⟩ (pos target) = some (String.ofList target) :=
  text?_eq (a := []) hw

section
variable {target : List Char} {level : Option (List Char)}

/-- A word alone is a verbosity, or else a target. -/
theorem run_word_alone (hw : whole = encodeChars (target ++ tail)) :
    run whole (pos target) ⟨begun.draft, .word, 0⟩ [] = Form.meaning? ⟨target, none, none⟩ tail := by
  have hw : whole = encodeChars (target ++ tail ++ []) := by simpa using hw
  have last : text? whole ⟨begun.draft, .word, 0⟩ whole.length =
      some (String.ofList (target ++ tail)) := by
    rw [show whole.length = pos (target ++ tail) by simp [pos, hw]]
    exact text?_target hw
  rw [run, finish]
  simp only [last, Option.map_some, String.toList_ofList, Form.meaning?]
  cases Verbosity.ofText? (target ++ tail) <;> rfl

theorem run_word_level (ht : target ≠ []) (hw : whole = encodeChars (target ++ '=' :: (l ++ tail))) :
    run whole (pos target) ⟨begun.draft, .word, 0⟩ ('=' :: l) =
      Form.meaning? ⟨target, none, some l⟩ tail := by
  have next_eq : next whole ⟨begun.draft, .word, 0⟩ (pos target) '=' =
      some ⟨{ begun.draft with target := some (String.ofList target) }, .verbosity,
        pos (target ++ ['='])⟩ := by
    rw [pos_mark _ rfl, next, if_pos rfl, text?_target hw]
    rfl
  rw [run_cons next_eq, run_verbosity (by simpa using hw) rfl]
  cases hv : Form.levelOf? (l ++ tail) with
  | none => simp [Form.meaning?, ht, hv]
  | some v => simp [Form.meaning?, ht, hv, begun, plain]

theorem bracket_written (b : Bracket) : b.written = '[' :: b.written.tail := by
  simp [Bracket.written]

theorem run_word_bracket (ht : target ≠ []) {b : Bracket} (wf : b.WellFormed)
    (hw : whole = encodeChars (target ++ b.written ++ level.elim [] ('=' :: ·) ++ tail)) :
    run whole (pos target) ⟨begun.draft, .word, 0⟩ (b.written ++ level.elim [] ('=' :: ·)) =
      Form.meaning? ⟨target, some b, level⟩ tail := by
  have text : text? whole ⟨begun.draft, .word, 0⟩ (pos target) = some (String.ofList target) :=
    text?_target (by simpa using hw)
  have next_eq : next whole ⟨begun.draft, .word, 0⟩ (pos target) '[' =
      some ⟨{ begun.draft with target := some (String.ofList target) }, .span,
        pos (target ++ ['['])⟩ := by
    rw [pos_mark _ rfl, next, if_neg (show ¬ '[' = '=' by decide), if_pos rfl, text]
    rfl
  rw [bracket_written, List.cons_append, run_cons next_eq, run_bracket wf hw rfl rfl]
  simp [Form.meaning?, ht]

end

theorem run_written {w : Form} (wf : w.WellFormed) (hw : whole = encodeChars (w.written ++ tail)) :
    begun.run whole 0 w.written = w.meaning? tail := by
  obtain ⟨target, bracket, level⟩ := w
  by_cases ht : target = []
  · subst ht
    cases bracket with
    | none => exact absurd rfl (wf.ne_nil rfl)
    | some b =>
      have opened : Form.written ⟨[], some b, level⟩ =
          '[' :: (b.written.tail ++ level.elim [] ('=' :: ·)) := by
        simp [Form.written, Bracket.written]
      rw [opened, show 0 = pos [] from rfl, run_cons rfl]
      exact run_bracket (wf.bracket b rfl) (by simpa [Form.written] using hw) rfl rfl
  · have named : Form.written ⟨target, bracket, level⟩ =
        target ++ (bracket.elim [] Bracket.written ++ level.elim [] ('=' :: ·)) := by
      simp [Form.written]
    rw [named] at hw ⊢
    rw [run_target ht wf.target wf.begins]
    cases bracket with
    | some b => exact run_word_bracket ht (wf.bracket b rfl) (by simpa using hw)
    | none =>
      cases level with
      | none => exact run_word_alone (by simpa using hw)
      | some l => exact run_word_level ht (by simpa using hw)

/-! ## What can be read is a form -/

variable {i start : Nat}

/-- What may stand behind a bracket or a target. -/
def IsLevel (l : List Char) (level : Option (List Char)) : Prop :=
  l = level.elim [] ('=' :: ·)

theorem level_of_run_closed (h : run whole i ⟨draft, .closed, start⟩ l = some d) :
    ∃ level, IsLevel l level := by
  cases l with
  | nil => exact ⟨none, rfl⟩
  | cons c l =>
    by_cases hc : c = '='
    · exact ⟨some l, by rw [hc]; rfl⟩
    · simp [run, next, hc] at h

theorem level_of_run_bracket (h : run whole i ⟨draft, .bracket, start⟩ l = some d) :
    ∃ r level, l = ']' :: r ∧ IsLevel r level := by
  cases l with
  | nil => simp [run, finish] at h
  | cons c l =>
    by_cases hc : c = ']'
    · simp only [run, next, hc, if_true, Option.bind_some] at h
      obtain ⟨level, hl⟩ := level_of_run_closed h
      exact ⟨l, level, by rw [hc], hl⟩
    · simp [run, next, hc] at h

theorem next_close {r' : Reading} (h : next whole ⟨draft, .field, start⟩ i '\x7d' = some r') :
    (∃ draft' stop, r' = ⟨draft', .bracket, stop⟩) ∧
      text? whole ⟨draft, .field, start⟩ i ≠ some "" := by
  rw [next, if_pos rfl] at h
  obtain ⟨text, ht, h⟩ := Option.bind_eq_some_iff.mp h
  by_cases he : text = ""
  · rw [if_pos he] at h
    cases h
  · rw [if_neg he] at h
    obtain ⟨field, hf, h⟩ := Option.bind_eq_some_iff.mp h
    cases h
    exact ⟨⟨_, _, rfl⟩, by rw [ht]; exact fun e => he (Option.some.inj e)⟩

theorem field_of_run (h : run whole i ⟨draft, .field, start⟩ l = some d) :
    ∃ f r level, '\x7d' ∉ f ∧ l = f ++ '\x7d' :: ']' :: r ∧ IsLevel r level := by
  induction l generalizing i with
  | nil => simp [run, finish] at h
  | cons c l ih =>
    by_cases hc : c = '\x7d'
    · rw [hc, run] at h
      obtain ⟨r', hnext, h⟩ := Option.bind_eq_some_iff.mp h
      obtain ⟨⟨draft', stop, rfl⟩, -⟩ := next_close hnext
      obtain ⟨r, level, rfl, hr⟩ := level_of_run_bracket h
      exact ⟨[], r, level, by simp, by rw [hc]; rfl, hr⟩
    · rw [run, next_field hc, Option.bind_some] at h
      obtain ⟨f, r, level, hf, rfl, hr⟩ := ih h
      exact ⟨c :: f, r, level, by simp [Ne.symm hc, hf], rfl, hr⟩

theorem field_ne_nil_of_run {f : List Char}
    (h : run whole i ⟨draft, .field, i⟩ (f ++ '\x7d' :: l) = some d) : f ≠ [] := by
  rintro rfl
  obtain ⟨r', hnext, -⟩ := Option.bind_eq_some_iff.mp h
  refine (next_close hnext).2 ?_
  rw [text?, List.drop_eq_nil_of_le (List.length_take_le i whole)]
  rfl

theorem bracket_of_run (h : run whole i ⟨draft, .span, start⟩ l = some d) :
    ∃ b r level, Bracket.WellFormed b ∧ '[' :: l = b.written ++ r ∧ IsLevel r level := by
  induction l generalizing i with
  | nil => simp [run, finish] at h
  | cons c l ih =>
    by_cases hc : c = ']'
    · rw [hc, run] at h
      obtain ⟨r', hnext, h⟩ := Option.bind_eq_some_iff.mp h
      rw [next, if_pos rfl] at hnext
      obtain ⟨name, -, rfl⟩ := Option.map_eq_some_iff.mp hnext
      obtain ⟨level, hl⟩ := level_of_run_closed h
      exact ⟨⟨[], none⟩, l, level, ⟨by simp, by simp⟩, by rw [hc]; rfl, hl⟩
    by_cases hc' : c = '\x7b'
    · rw [hc', run] at h
      obtain ⟨r', hnext, h⟩ := Option.bind_eq_some_iff.mp h
      rw [next, if_neg (show ¬ '\x7b' = ']' by decide), if_pos rfl] at hnext
      obtain ⟨name, -, rfl⟩ := Option.map_eq_some_iff.mp hnext
      obtain ⟨f, r, level, hf, rfl, hr⟩ := field_of_run h
      have hne : f ≠ [] := field_ne_nil_of_run h
      exact ⟨⟨[], some f⟩, r, level, ⟨by simp, by simp [hne, hf]⟩, by simp [hc', Bracket.written], hr⟩
    · rw [run, next_span ⟨hc, hc'⟩, Option.bind_some] at h
      obtain ⟨⟨span, field⟩, r, level, wf, hl, hr⟩ := ih h
      have hl : l = span ++ (field.elim [] fun f => '\x7b' :: f ++ ['\x7d']) ++ [']'] ++ r := by
        simpa [Bracket.written] using hl
      refine ⟨⟨c :: span, field⟩, r, level, ⟨?_, wf.field⟩, by simp [hl, Bracket.written], hr⟩
      simp [Ne.symm hc, Ne.symm hc', wf.span.1, wf.span.2]

theorem target_of_run (h : run whole i ⟨draft, .word, start⟩ l = some d) :
    ∃ (target : List Char) (bracket : Option Bracket) (level : Option (List Char)),
      ('=' ∉ target ∧ '[' ∉ target) ∧ (∀ b ∈ bracket, b.WellFormed) ∧
      l = target ++ (bracket.elim [] Bracket.written ++ level.elim [] ('=' :: ·)) := by
  induction l generalizing i with
  | nil => exact ⟨[], none, none, by simp, by simp, rfl⟩
  | cons c l ih =>
    by_cases hc : c = '='
    · exact ⟨[], none, some l, by simp, by simp, by rw [hc]; rfl⟩
    by_cases hc' : c = '['
    · rw [hc', run] at h
      obtain ⟨r', hnext, h⟩ := Option.bind_eq_some_iff.mp h
      rw [next, if_neg (show ¬ '[' = '=' by decide), if_pos rfl] at hnext
      obtain ⟨name, -, rfl⟩ := Option.map_eq_some_iff.mp hnext
      obtain ⟨b, r, level, wf, hl, hr⟩ := bracket_of_run h
      exact ⟨[], some b, level, by simp, by simpa using wf, by rw [hc', hl, hr]; rfl⟩
    · rw [run, next_word ⟨hc, hc'⟩, Option.bind_some] at h
      obtain ⟨target, bracket, level, ⟨he, hb⟩, wf, rfl⟩ := ih h
      exact ⟨c :: target, bracket, level, by simp [Ne.symm hc, Ne.symm hc', he, hb], wf, rfl⟩

theorem exists_form (h : begun.run whole i l = some d) : ∃ w : Form, w.WellFormed ∧ l = w.written := by
  cases l with
  | nil => simp [run, finish, begun] at h
  | cons c l =>
    rw [run] at h
    obtain ⟨r', hnext, h⟩ := Option.bind_eq_some_iff.mp h
    by_cases hc : c = '['
    · rw [next, begun, if_pos hc] at hnext
      cases hnext
      obtain ⟨b, r, level, wf, hl, hr⟩ := bracket_of_run h
      refine ⟨⟨[], some b, level⟩, ⟨by simp, by simp, by simpa using wf, by simp⟩, ?_⟩
      rw [hc, hl, hr]
      rfl
    · rw [next, begun, if_neg hc] at hnext
      by_cases hb : mayBegin c
      · rw [if_pos hb] at hnext
        cases hnext
        obtain ⟨target, bracket, level, ⟨he, hs⟩, wf, rfl⟩ := target_of_run h
        have hc' : c ≠ '=' := by
          rintro rfl
          revert hb
          decide +kernel
        refine ⟨⟨c :: target, bracket, level⟩,
          ⟨by simp [Ne.symm hc, Ne.symm hc', he, hs], by simpa using hb, wf, by simp⟩, ?_⟩
        simp [Form.written]
      · rw [if_neg hb] at hnext
        cases hnext

end Reading

/-- A text without blanks at its beginning is read as a directive exactly if, without the blanks `tail`
at its end, it is written in a form that means the directive. -/
theorem ofText?_eq_some_iff {t tail : List Char} (ht : Text.Blank.trim (t ++ tail) = t)
    {d : Directive} :
    ofText? (t ++ tail) = some d ↔
      ∃ w : Form, w.WellFormed ∧ t = w.written ∧ w.meaning? tail = some d := by
  rw [ofText?, ht]
  constructor
  · intro h
    obtain ⟨w, wf, rfl⟩ := Reading.exists_form h
    exact ⟨w, wf, rfl, (Reading.run_written wf rfl).symm.trans h⟩
  · rintro ⟨w, wf, rfl, h⟩
    exact (Reading.run_written wf rfl).trans h

end Directive

end SandboxProbe
