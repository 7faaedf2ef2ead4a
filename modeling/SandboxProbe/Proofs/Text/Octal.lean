import SandboxProbe.Text.Octal

/-!
# Octal modes are read exactly

`Spells` says which texts stand for which number, in base 8 and without a bound. `read_spelled`: of the
numbers so spelled the modes are read, those above them that fit 32 bits are out of range, and
everything else is not octal.
-/

namespace SandboxProbe.Text.Octal

/-! ## Numerals -/

def IsDigit (c : Char) : Prop :=
  '0' ≤ c ∧ c ≤ '7'

structure Numeral (ds : List Char) (n : Nat) : Prop where
  nonempty : ds ≠ []
  digits : ∀ c ∈ ds, IsDigit c
  value : Nat.ofDigitChars 8 ds 0 = n

inductive Signed : List Char → Nat → Prop
  | bare {ds n} : Numeral ds n → Signed ds n
  | plus {ds n} : Numeral ds n → Signed ('+' :: ds) n

/-- At most one mark, at most one sign behind it, and digits that are worth the number. -/
inductive Spells : List Char → Nat → Prop
  | bare {s n} : Signed s n → Spells s n
  | marked {s n} : Signed s n → Spells ('0' :: 'o' :: s) n

theorem Numeral.unsigned {r : List Char} {n : Nat} : ¬ Numeral ('+' :: r) n := by
  intro h
  have hd := h.digits '+' List.mem_cons_self
  exact absurd hd.1 (by decide)

theorem Signed.unmarked {r : List Char} {n : Nat} : ¬ Signed ('0' :: 'o' :: r) n := by
  intro h
  cases h with
  | bare h =>
    have hd := h.digits 'o' (by simp)
    exact absurd hd.2 (by decide)

theorem signed_iff {s : List Char} {n : Nat} : Signed s n ↔ Numeral (Digits.dropPlus s) n := by
  unfold Digits.dropPlus
  constructor
  · intro h
    cases h with
    | bare h =>
      split
      · exact absurd h Numeral.unsigned
      · exact h
    | plus h => exact h
  · intro h
    split at h
    · exact .plus h
    · exact .bare h

theorem spells_iff_signed {s : List Char} {n : Nat} : Spells s n ↔ Signed (dropMark s) n := by
  unfold dropMark
  constructor
  · intro h
    cases h with
    | bare h =>
      split
      · exact absurd h Signed.unmarked
      · exact h
    | marked h => exact h
  · intro h
    split at h
    · exact .marked h
    · exact .bare h

theorem spells_iff {s : List Char} {n : Nat} :
    Spells s n ↔ Numeral (Digits.dropPlus (dropMark s)) n :=
  spells_iff_signed.trans signed_iff

theorem Spells.unique {s : List Char} {n n' : Nat} (h : Spells s n) (h' : Spells s n') : n = n' := by
  have hv := (spells_iff.mp h).value
  have hv' := (spells_iff.mp h').value
  rw [← hv, ← hv']

/-! ## Accumulating -/

theorem digit?_of_isDigit {c : Char} (h : IsDigit c) : digit? c = some (c.toNat - '0'.toNat) := by
  unfold digit?
  exact if_pos h

theorem digit?_of_not_isDigit {c : Char} (h : ¬ IsDigit c) : digit? c = none := by
  unfold digit?
  exact if_neg h

theorem le_ofDigitChars (s : List Char) (n : Nat) : n ≤ Nat.ofDigitChars 8 s n := by
  induction s generalizing n with
  | nil => simp
  | cons c s ih =>
    rw [Nat.ofDigitChars_cons]
    have h := ih (8 * n + (c.toNat - '0'.toNat))
    omega

theorem accumulate_nil (n : Nat) : accumulate n [] = some n :=
  rfl

theorem accumulate_cons (n : Nat) (c : Char) (s : List Char) :
    accumulate n (c :: s) =
      (digit? c).bind fun d => if n * 8 + d < UInt32.size then accumulate (n * 8 + d) s else none :=
  rfl

/-- A value that has left 32 bits never comes back into them, so stopping early loses no number. -/
theorem accumulate_eq_some_iff {s : List Char} {n m : Nat} (hn : n < UInt32.size) :
    accumulate n s = some m ↔
      (∀ c ∈ s, IsDigit c) ∧ Nat.ofDigitChars 8 s n = m ∧ m < UInt32.size := by
  induction s generalizing n with
  | nil =>
    simp only [accumulate_nil, List.not_mem_nil, false_implies, implies_true, true_and,
      Nat.ofDigitChars_nil, Option.some.injEq]
    constructor
    · intro h
      exact ⟨h, h ▸ hn⟩
    · intro h
      exact h.1
  | cons c s ih =>
    rw [accumulate_cons, Nat.ofDigitChars_cons, List.forall_mem_cons]
    by_cases hc : IsDigit c
    · rw [digit?_of_isDigit hc]
      have hvalue : n * 8 + (c.toNat - '0'.toNat) = 8 * n + (c.toNat - '0'.toNat) := by omega
      simp only [Option.bind_some, hvalue]
      by_cases hm : 8 * n + (c.toNat - '0'.toNat) < UInt32.size
      · rw [if_pos hm, ih hm]
        simp [hc]
      · rw [if_neg hm]
        have hle := le_ofDigitChars s (8 * n + (c.toNat - '0'.toNat))
        constructor
        · intro h
          cases h
        · intro h
          omega
    · rw [digit?_of_not_isDigit hc]
      simp [hc]

theorem number?_eq_some_iff {s : List Char} {n : Nat} :
    number? s = some n ↔ Numeral s n ∧ n < UInt32.size := by
  unfold number?
  split
  · constructor
    · intro h
      cases h
    · intro h
      exact absurd rfl h.1.nonempty
  · rename_i nonempty
    rw [accumulate_eq_some_iff (by decide)]
    constructor
    · intro h
      exact ⟨⟨nonempty, h.1, h.2.1⟩, h.2.2⟩
    · intro h
      exact ⟨h.1.digits, h.1.value, h.2⟩

/-! ## Reading -/

/-- What comes of reading a text: a mode, a number that is too high for one, or no number of 32 bits. -/
inductive Reads (given : String) : Except Error UInt32 → Prop
  | mode {m : UInt32} : Spells given.toList m.toNat → m.toNat ≤ highest → Reads given (.ok m)
  | outOfRange {n : Nat} : Spells given.toList n → highest < n → n < UInt32.size →
      Reads given (.error (.outOfRange given))
  | notOctal : (∀ n, Spells given.toList n → UInt32.size ≤ n) → Reads given (.error (.notOctal given))

section
variable {given : String}

theorem reads_of_number {n : Nat}
    (h : number? (Digits.dropPlus (dropMark given.toList)) = some n) : Reads given (read given) := by
  obtain ⟨hnumeral, hn⟩ := number?_eq_some_iff.mp h
  have hs := spells_iff.mpr hnumeral
  unfold read
  rw [h]
  by_cases hle : n ≤ highest
  · have hmode : (UInt32.ofNat n).toNat = n := UInt32.toNat_ofNat_of_lt' hn
    simp only [hle, ite_true]
    exact .mode (hmode.symm ▸ hs) (hmode.symm ▸ hle)
  · simp only [hle, ite_false]
    exact .outOfRange hs (Nat.lt_of_not_le hle) hn

theorem reads_of_no_number (h : number? (Digits.dropPlus (dropMark given.toList)) = none) :
    Reads given (read given) := by
  unfold read
  rw [h]
  apply Reads.notOctal
  intro n hs
  apply Nat.le_of_not_lt
  intro hn
  have hsome := number?_eq_some_iff.mpr ⟨spells_iff.mp hs, hn⟩
  rw [h] at hsome
  cases hsome

theorem Reads.unique {a b : Except Error UInt32} (h : Reads given a) (h' : Reads given b) :
    a = b := by
  cases h with
  | @mode m hs hle =>
    have hlt := m.toNat_lt_size
    cases h' with
    | mode hs' => rw [UInt32.toNat_inj.mp (hs.unique hs')]
    | outOfRange hs' hgt => have := hs.unique hs'; omega
    | notOctal hnone => have := hnone _ hs; omega
  | outOfRange hs hgt hn =>
    cases h' with
    | mode hs' hle => have := hs.unique hs'; omega
    | outOfRange => rfl
    | notOctal hnone => have := hnone _ hs; omega
  | notOctal hnone =>
    cases h' with
    | @mode m hs => have := hnone _ hs; have := m.toNat_lt_size; omega
    | outOfRange hs hgt hn => have := hnone _ hs; omega
    | notOctal => rfl

theorem read_eq_iff {result : Except Error UInt32} : read given = result ↔ Reads given result := by
  have hreads : Reads given (read given) := by
    cases h : number? (Digits.dropPlus (dropMark given.toList)) with
    | none => exact reads_of_no_number h
    | some n => exact reads_of_number h
  constructor
  · intro h
    exact h ▸ hreads
  · exact hreads.unique

theorem read_eq_ok_iff {mode : UInt32} :
    read given = .ok mode ↔ Spells given.toList mode.toNat ∧ mode.toNat ≤ highest := by
  rw [read_eq_iff]
  constructor
  · intro h
    cases h with
    | mode hs hle => exact ⟨hs, hle⟩
  · intro h
    exact .mode h.1 h.2

theorem read_eq_outOfRange_iff :
    read given = .error (.outOfRange given) ↔
      ∃ n, Spells given.toList n ∧ highest < n ∧ n < UInt32.size := by
  rw [read_eq_iff]
  constructor
  · intro h
    cases h with
    | outOfRange hs hgt hn => exact ⟨_, hs, hgt, hn⟩
  · rintro ⟨n, hs, hgt, hn⟩
    exact .outOfRange hs hgt hn

theorem read_eq_notOctal_iff :
    read given = .error (.notOctal given) ↔ ¬ ∃ n, Spells given.toList n ∧ n < UInt32.size := by
  simp only [read_eq_iff, not_exists, not_and, Nat.not_lt]
  constructor
  · intro h
    cases h with
    | notOctal hnone => exact hnone
  · exact .notOctal

end

/-! ## Writing -/

/-- A number in octal, behind as many zeros. -/
def written (zeros n : Nat) : List Char :=
  List.replicate zeros '0' ++ Nat.toDigits 8 n

theorem isDigit_digitChar : ∀ n < 8, IsDigit (Nat.digitChar n) := by
  unfold IsDigit
  decide

theorem isDigit_toDigits (n : Nat) : ∀ c ∈ Nat.toDigits 8 n, IsDigit c := by
  induction n using Nat.strongRecOn with
  | _ n ih =>
    intro c hc
    by_cases h : n < 8
    · rw [Nat.toDigits_of_lt_base h, List.mem_singleton] at hc
      rw [hc]
      exact isDigit_digitChar n h
    · rw [Nat.toDigits_of_base_le (by decide) (Nat.le_of_not_lt h), List.mem_append,
        List.mem_singleton] at hc
      rcases hc with hc | hc
      · exact ih (n / 8) (by omega) c hc
      · rw [hc]
        exact isDigit_digitChar (n % 8) (by omega)

theorem numeral_written (zeros n : Nat) : Numeral (written zeros n) n where
  nonempty := by
    intro h
    exact Nat.toDigits_ne_nil (List.append_eq_nil_iff.mp h).2
  digits c hc := by
    rcases List.mem_append.mp hc with hc | hc
    · rw [List.eq_of_mem_replicate hc]
      unfold IsDigit
      decide
    · exact isDigit_toDigits n c hc
  value := by
    rw [written, Nat.ofDigitChars_append, Nat.ofDigitChars_replicate_zero, Nat.mul_zero,
      Nat.ofDigitChars_toDigits (by decide) (by decide)]

theorem spells_written (zeros n : Nat) :
    Spells (written zeros n) n ∧ Spells ('0' :: 'o' :: written zeros n) n :=
  ⟨.bare (.bare (numeral_written zeros n)), .marked (.bare (numeral_written zeros n))⟩

/-- Of the numbers that a text can spell the modes are read as they are, those above them are out of
range as long as they fit 32 bits, and all other texts are not octal. A text spells one number at most.
A mode that is written in octal, with zeros before it or none and with the mark or without, is read
back. -/
theorem read_spelled (given : String) :
    (∀ mode : UInt32,
      read given = .ok mode ↔ Spells given.toList mode.toNat ∧ mode.toNat ≤ 0o7777) ∧
    (read given = .error (.outOfRange given) ↔
      ∃ n, Spells given.toList n ∧ 0o7777 < n ∧ n < UInt32.size) ∧
    (read given = .error (.notOctal given) ↔ ¬ ∃ n, Spells given.toList n ∧ n < UInt32.size) ∧
    (∀ n n', Spells given.toList n → Spells given.toList n' → n = n') ∧
    ∀ (mode : UInt32) (zeros : Nat), mode.toNat ≤ 0o7777 →
      read (String.ofList (written zeros mode.toNat)) = .ok mode ∧
        read (String.ofList ('0' :: 'o' :: written zeros mode.toNat)) = .ok mode := by
  refine ⟨fun mode => read_eq_ok_iff, read_eq_outOfRange_iff, read_eq_notOctal_iff,
    fun n n' => Spells.unique, ?_⟩
  intro mode zeros hmode
  have hwritten := spells_written zeros mode.toNat
  constructor
  · rw [read_eq_ok_iff, String.toList_ofList]
    exact ⟨hwritten.1, hmode⟩
  · rw [read_eq_ok_iff, String.toList_ofList]
    exact ⟨hwritten.2, hmode⟩

/-- The sign stands behind the mark, the mark stands once, and the two errors meet at 2^32. -/
example : read "0o+07" = .ok 7 ∧ read "+0o7" = .error (.notOctal "+0o7") ∧
    read "0o0o7" = .error (.notOctal "0o0o7") ∧
    read "037777777777" = .error (.outOfRange "037777777777") ∧
    read "040000000000" = .error (.notOctal "040000000000") :=
  ⟨rfl, rfl, rfl, rfl, rfl⟩

end SandboxProbe.Text.Octal
