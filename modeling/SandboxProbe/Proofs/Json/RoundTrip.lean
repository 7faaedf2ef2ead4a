import SandboxProbe.Json.Basic
import SandboxProbe.Json.Reader

/-!
# The reader inverts the printer

`read?_pretty`: a value whose objects have no key twice is read back from its printed form. Each part of
the printer has its lemma over what may follow it: a string over anything, a number over anything but a
digit, a value over anything that does not go on with it.
-/

namespace SandboxProbe.Json

open Text

/-! ## Strings -/

theorem hex?_hexDigit : ∀ n < 16, Digits.hex? (hexDigit n) = some n := by decide

theorem unit?_of_lt {n : Nat} (h : n < 256) :
    unit? '0' '0' (hexDigit (n / 16)) (hexDigit (n % 16)) = some n := by
  have zero : Digits.hex? '0' = some 0 := by decide
  have high := hex?_hexDigit (n / 16) (by omega)
  have low := hex?_hexDigit (n % 16) (by omega)
  simp only [unit?, zero, high, low, bind, pure, Option.bind_some, Option.some.injEq]
  omega

/-- The character in front of a string that has been read. -/
def consRead (c : Char) (read : List Char × List Char) : List Char × List Char :=
  (c :: read.1, read.2)

theorem readString_letter {e c : Char} (rest : List Char) (hu : e ≠ 'u')
    (he : unescape? e = some c) :
    readString ('\\' :: e :: rest) = (readString rest).map (consRead c) := by
  rw [readString.eq_4 _ _ (fun _ _ _ _ _ h => absurd h hu), he]
  cases readString rest <;> rfl

theorem readString_unit (n : Nat) (rest : List Char) (h : n < 32) :
    readString ('\\' :: 'u' :: '0' :: '0' :: hexDigit (n / 16) :: hexDigit (n % 16) :: rest) =
      (readString rest).map (consRead (Char.ofNat n)) := by
  rw [readString, unit?_of_lt (by omega)]
  have high : ¬(0xD800 ≤ n ∧ n < 0xDC00) := by omega
  have low : ¬(0xDC00 ≤ n ∧ n < 0xE000) := by omega
  simp only [bind, Option.bind_some, if_neg high, if_neg low]
  cases readString rest <;> rfl

theorem readString_plain {c : Char} (rest : List Char) (hq : c ≠ '"') (hb : c ≠ '\\')
    (hc : ¬c < ' ') : readString (c :: rest) = (readString rest).map (consRead c) := by
  rw [readString.eq_5 _ _ hq (fun _ _ _ _ _ h => absurd h hb) (fun _ _ h => absurd h hb),
    if_neg (by simp [hc, hb])]
  cases readString rest <;> rfl

theorem readString_escape (c : Char) (rest : List Char) :
    readString (escape c ++ rest) = (readString rest).map (consRead c) := by
  unfold escape
  split
  · subst_vars; exact readString_letter rest (by decide) rfl
  split
  · subst_vars; exact readString_letter rest (by decide) rfl
  split
  · subst_vars; exact readString_letter rest (by decide) rfl
  split
  · subst_vars; exact readString_letter rest (by decide) rfl
  split
  · subst_vars; exact readString_letter rest (by decide) rfl
  split
  · subst_vars; exact readString_letter rest (by decide) rfl
  split
  · subst_vars; exact readString_letter rest (by decide) rfl
  split
  · rename_i hc
    have small : c.toNat < 32 := hc
    have read := readString_unit c.toNat rest small
    rwa [Char.ofNat_toNat] at read
  · rename_i hq hb _ _ _ _ _ hc
    exact readString_plain rest hq hb hc

theorem readString_printString (s : List Char) (rest : List Char) :
    readString (s.flatMap escape ++ '"' :: rest) = some (s, rest) := by
  induction s with
  | nil => rw [List.flatMap_nil, List.nil_append, readString]
  | cons c s ih =>
    rw [List.flatMap_cons, List.append_assoc, readString_escape, ih]
    rfl

/-! ## Numbers -/

/-- No digit follows a number that ends here. -/
def NoDigit (rest : List Char) : Prop :=
  ∀ c r, rest = c :: r → Digits.isDecimal c = false

theorem noDigit_nil : NoDigit [] := by
  intro c r same
  cases same

theorem noDigit_cons {c : Char} {r : List Char} (h : Digits.isDecimal c = false) :
    NoDigit (c :: r) := by
  intro c' r' same
  cases same
  exact h

theorem isDecimal_of_mem_toDigits {c : Char} {n : Nat} (h : c ∈ Nat.toDigits 10 n) :
    Digits.isDecimal c = true := by
  have digit := Nat.isDigit_of_mem_toDigits (by decide) (by decide) h
  simp only [Char.isDigit, Bool.and_eq_true, decide_eq_true_eq] at digit
  simp only [Digits.isDecimal, Bool.and_eq_true, decide_eq_true_eq]
  exact digit

theorem value_toDigits (n : Nat) : Digits.value (Nat.toDigits 10 n) = n := by
  have read := Nat.ofDigitChars_ten_toDigits (n := n)
  rw [Nat.ofDigitChars_eq_foldl] at read
  simpa only [Digits.value, Nat.mul_comm] using read

theorem head?_toDigits (n : Nat) (hn : n ≠ 0) : (Nat.toDigits 10 n).head? ≠ some '0' := by
  induction n using Nat.strongRecOn with
  | _ n ih =>
    by_cases small : n < 10
    · have digit : ∀ m < 10, m ≠ 0 → Nat.digitChar m ≠ '0' := by decide
      rw [Nat.toDigits_of_lt_base small]
      simpa using digit n small hn
    · have front := ih (n / 10) (by omega) (by omega)
      obtain ⟨c, ds, digits⟩ := List.exists_cons_of_ne_nil (Nat.toDigits_ne_nil (n := n / 10) (b := 10))
      rw [digits] at front
      rw [Nat.toDigits_of_base_le (by decide) (by omega), digits]
      exact front

theorem toDigits_ne_zero_cons (n : Nat) (c : Char) (ds : List Char) :
    Nat.toDigits 10 n ≠ '0' :: c :: ds := by
  intro h
  by_cases zero : n = 0
  · subst zero
    simp at h
  · have head := head?_toDigits n zero
    rw [h] at head
    exact head rfl

section
variable {rest : List Char} (hr : NoDigit rest)
include hr

theorem takeWhile_digits {ds : List Char} (hd : ∀ c ∈ ds, Digits.isDecimal c = true) :
    (ds ++ rest).takeWhile Digits.isDecimal = ds := by
  rw [List.takeWhile_append_of_pos hd]
  cases rest with
  | nil => simp
  | cons c r => simp [hr c r rfl]

theorem dropWhile_digits {ds : List Char} (hd : ∀ c ∈ ds, Digits.isDecimal c = true) :
    (ds ++ rest).dropWhile Digits.isDecimal = rest := by
  rw [List.dropWhile_append_of_pos hd]
  cases rest with
  | nil => rfl
  | cons c r => simp [hr c r rfl]

theorem readNat_toDigits (n : Nat) : readNat (Nat.toDigits 10 n ++ rest) = some (n, rest) := by
  have digits : ∀ c ∈ Nat.toDigits 10 n, Digits.isDecimal c = true :=
    fun _ => isDecimal_of_mem_toDigits
  rw [readNat, takeWhile_digits hr digits, dropWhile_digits hr digits]
  split
  · rename_i none
    exact absurd none Nat.toDigits_ne_nil
  · rename_i zero
    exact absurd zero (toDigits_ne_zero_cons n _ _)
  · rw [value_toDigits]

theorem readNumber_printNumber (n : Int) :
    readNumber (printNumber n ++ rest) = some (n, rest) := by
  cases n with
  | ofNat n =>
    have unsigned : ∀ r, printNumber (.ofNat n) ++ rest ≠ '-' :: r := by
      intro r same
      cases h : Nat.toDigits 10 n with
      | nil => exact Nat.toDigits_ne_nil h
      | cons c ds =>
        have digit := isDecimal_of_mem_toDigits (h ▸ List.mem_cons_self)
        rw [printNumber, h] at same
        cases same
        exact absurd digit (by decide)
    rw [readNumber.eq_2 _ unsigned, printNumber, readNat_toDigits hr]
    rfl
  | negSucc n =>
    rw [printNumber, List.cons_append, readNumber, readNat_toDigits hr]
    rfl

end

/-- The first character of a number: its sign or a digit. -/
def StartsNumber (c : Char) : Prop :=
  c = '-' ∨ Digits.isDecimal c = true

theorem StartsNumber.ne {c d : Char} (hc : StartsNumber c) (hm : '-' ≠ d)
    (hd : Digits.isDecimal d = false) : c ≠ d := by
  intro same
  subst same
  cases hc with
  | inl minus => exact hm minus.symm
  | inr digit => exact absurd digit (by simp [hd])

theorem printNumber_eq_cons (n : Int) :
    ∃ c ds, printNumber n = c :: ds ∧ StartsNumber c := by
  cases n with
  | negSucc n => exact ⟨_, _, rfl, .inl rfl⟩
  | ofNat n =>
    obtain ⟨c, ds, digits⟩ := List.exists_cons_of_ne_nil (Nat.toDigits_ne_nil (n := n) (b := 10))
    exact ⟨c, ds, digits, .inr (isDecimal_of_mem_toDigits (digits ▸ List.mem_cons_self))⟩

/-! ## Blanks -/

theorem skipBlanks_cons {c : Char} (s : List Char) (h : isBlank c = false) :
    skipBlanks (c :: s) = c :: s := by
  rw [skipBlanks, List.dropWhile_cons, h]
  rfl

theorem skipBlanks_blank {c : Char} (s : List Char) (h : isBlank c = true) :
    skipBlanks (c :: s) = skipBlanks s := by
  rw [skipBlanks, List.dropWhile_cons, h]
  rfl

theorem StartsNumber.not_blank {c : Char} (h : StartsNumber c) : isBlank c = false := by
  have blank := h.ne (d := ' ') (by decide) (by decide)
  have tab := h.ne (d := '\t') (by decide) (by decide)
  have line := h.ne (d := '\n') (by decide) (by decide)
  have back := h.ne (d := '\r') (by decide) (by decide)
  simp [isBlank, blank, tab, line, back]

theorem skipBlanks_indent (depth : Nat) (s : List Char) :
    skipBlanks (indent depth ++ s) = skipBlanks s := by
  have blanks : ∀ c ∈ indent depth, isBlank c = true := by
    intro c hc
    rw [List.eq_of_mem_replicate hc]
    rfl
  rw [skipBlanks, List.dropWhile_append_of_pos blanks]
  rfl

theorem skipBlanks_printString (s : String) (rest : List Char) :
    skipBlanks (printString s ++ rest) = printString s ++ rest :=
  skipBlanks_cons _ rfl

theorem skipBlanks_print (depth : Nat) (v : Json) (rest : List Char) :
    skipBlanks (print depth v ++ rest) = print depth v ++ rest := by
  cases v with
  | null => rw [print]; exact skipBlanks_cons _ rfl
  | bool b => cases b <;> rw [print] <;> exact skipBlanks_cons _ rfl
  | string s => rw [print]; exact skipBlanks_printString s rest
  | object fields =>
    cases fields with
    | nil => rw [print]; exact skipBlanks_cons _ rfl
    | cons f fs => rw [print]; exact skipBlanks_cons _ rfl
  | number n =>
    obtain ⟨c, ds, first, starts⟩ := printNumber_eq_cons n
    rw [print, first]
    exact skipBlanks_cons _ starts.not_blank

/-! ## Values -/

mutual

/-- No object in the value has a key twice. -/
def Distinct : Json → Prop
  | .object fields => (fields.map Prod.fst).Nodup ∧ DistinctFields fields
  | _ => True

def DistinctFields : List (String × Json) → Prop
  | [] => True
  | (_, v) :: fs => Distinct v ∧ DistinctFields fs

end

theorem readValue_number (fuel : Nat) (n : Int) {rest : List Char} (hr : NoDigit rest) :
    readValue (fuel + 1) (printNumber n ++ rest) = some (.number n, rest) := by
  obtain ⟨c, ds, first, starts⟩ := printNumber_eq_cons n
  have read := readNumber_printNumber hr n
  rw [first] at read ⊢
  rw [List.cons_append] at read ⊢
  rw [readValue]
  · rw [read]; rfl
  all_goals
    intro r same
    cases same
    exact starts.ne (by decide) (by decide) rfl

theorem readValue_fields {fuel : Nat} {r rest : List Char} {fields : List (String × Json)}
    (h : readFields fuel (skipBlanks r) = some (fields, rest)) :
    readValue (fuel + 1) ('\x7b' :: r) = some (.object fields, rest) := by
  rw [readValue]
  split
  · rename_i close
    rw [close] at h
    cases fuel <;> cases h
  · rw [h]; rfl

section
variable {fuel : Nat} {k : String} {v : Json} {t close r rest : List Char}
  {fields : List (String × Json)}

theorem readFields_last (hv : readValue fuel (skipBlanks t) = some (v, close))
    (hs : skipBlanks close = '\x7d' :: rest) :
    readFields (fuel + 1) (printString k ++ ':' :: ' ' :: t) = some ([(k, v)], rest) := by
  simp only [printString, List.cons_append, List.append_assoc, List.nil_append]
  rw [readFields, readString_printString]
  simp only [bind, pure, Option.bind_some, skipBlanks_cons _ (rfl : isBlank ':' = false),
    skipBlanks_blank _ (rfl : isBlank ' ' = true), hv, hs, String.ofList_toList]

theorem readFields_more (hv : readValue fuel (skipBlanks t) = some (v, ',' :: r))
    (hf : readFields fuel (skipBlanks r) = some (fields, rest)) (hk : k ∉ fields.map Prod.fst) :
    readFields (fuel + 1) (printString k ++ ':' :: ' ' :: t) = some ((k, v) :: fields, rest) := by
  have fresh : fields.any (fun f => f.1 = k) = false := by
    rw [List.any_eq_false]
    intro f member
    have other : f.1 ≠ k := fun same => hk (same ▸ List.mem_map_of_mem member)
    simp [other]
  simp only [printString, List.cons_append, List.append_assoc, List.nil_append]
  rw [readFields, readString_printString]
  simp only [bind, pure, Option.bind_some, skipBlanks_cons _ (rfl : isBlank ':' = false),
    skipBlanks_blank _ (rfl : isBlank ' ' = true), skipBlanks_cons _ (rfl : isBlank ',' = false),
    hv, hf, fresh, String.ofList_toList]
  rfl

end

mutual

theorem readValue_print (v : Json) (depth fuel : Nat) (rest : List Char) (hv : Distinct v)
    (hf : (print depth v).length < fuel) (hr : NoDigit rest) :
    readValue fuel (print depth v ++ rest) = some (v, rest) := by
  -- the braces and the key of a field each leave room for one step of fuel
  cases fuel with
  | zero => omega
  | succ fuel =>
    cases v with
    | null => rw [print]; rfl
    | bool b => cases b <;> rw [print] <;> rfl
    | number n => rw [print]; exact readValue_number fuel n hr
    | string s =>
      rw [print, printString]
      simp only [List.cons_append, List.append_assoc, List.nil_append]
      rw [readValue, readString_printString, Option.map_some]
      simp only [String.ofList_toList]
    | object fields =>
      cases fields with
      | nil => rw [print]; rfl
      | cons f fs =>
        rw [Distinct] at hv
        rw [print] at hf ⊢
        simp only [List.cons_append, List.append_assoc, List.nil_append, List.length_cons,
          List.length_append] at hf ⊢
        have read := readFields_print f fs (depth + 1) fuel
          ('\n' :: (indent depth ++ '\x7d' :: rest)) rest hv.1 hv.2 (by omega) (noDigit_cons rfl)
          (by rw [skipBlanks_blank _ rfl, skipBlanks_indent, skipBlanks_cons _ rfl])
        refine readValue_fields ?_
        rw [skipBlanks_blank _ rfl]
        exact read

theorem readFields_print (f : String × Json) (fs : List (String × Json)) (depth fuel : Nat)
    (close rest : List Char) (hk : ((f :: fs).map Prod.fst).Nodup) (hv : DistinctFields (f :: fs))
    (hf : (printFields depth (f :: fs)).length < fuel) (hc : NoDigit close)
    (hs : skipBlanks close = '\x7d' :: rest) :
    readFields fuel (skipBlanks (printFields depth (f :: fs) ++ close)) = some (f :: fs, rest) := by
  obtain ⟨k, v⟩ := f
  rw [DistinctFields] at hv
  cases fuel with
  | zero => omega
  | succ fuel =>
    cases fs with
    | nil =>
      rw [printFields] at hf ⊢
      simp only [List.length_append, List.length_cons] at hf
      simp only [List.cons_append, List.append_assoc]
      rw [skipBlanks_indent, skipBlanks_printString]
      refine readFields_last ?_ hs
      rw [skipBlanks_print]
      exact readValue_print v depth fuel close hv.1 (by omega) hc
    | cons g fs =>
      rw [printFields] at hf ⊢
      simp only [List.length_append, List.length_cons] at hf
      simp only [List.cons_append, List.append_assoc]
      rw [skipBlanks_indent, skipBlanks_printString]
      refine readFields_more (r := '\n' :: (printFields depth (g :: fs) ++ close)) ?_ ?_ ?_
      · rw [skipBlanks_print]
        exact readValue_print v depth fuel _ hv.1 (by omega) (noDigit_cons rfl)
      · rw [skipBlanks_blank _ rfl]
        exact readFields_print g fs depth fuel close rest (List.nodup_cons.mp hk).2 hv.2 (by omega) hc hs
      · exact (List.nodup_cons.mp hk).1

end

theorem read?_pretty {v : Json} (hv : Distinct v) : read? (pretty v) = some v := by
  have start := skipBlanks_print 0 v []
  have read := readValue_print v 0 ((print 0 v).length + 1) [] hv (by omega) noDigit_nil
  rw [List.append_nil] at start read
  rw [read?, pretty, String.toList_ofList, start, read]
  rfl

end SandboxProbe.Json
