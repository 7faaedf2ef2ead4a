import SandboxProbe.Text.Quoted

/-!
# Tables of characters

The tables are in ascending order, so each character is in at most one range of a table. What is
alphabetic is alphanumeric, what is alphanumeric is no blank, and a digit is its own lower case.
-/

namespace SandboxProbe.Text

/-! ## Order -/

namespace Ranges

structure Ascending (ranges : Ranges) : Prop where
  upwards : ∀ range ∈ ranges, range.1 ≤ range.2
  apart : ranges.Pairwise fun a b => a.2 < b.1

/-- Every range goes upwards from `bound` or from the end of the one before it. -/
def ascendsFrom : Nat → Ranges → Bool
  | _, [] => true
  | bound, (low, high) :: rest => bound ≤ low && low ≤ high && ascendsFrom (high + 1) rest

theorem bound_of_ascendsFrom {bound : Nat} {ranges : Ranges} (h : ascendsFrom bound ranges) :
    ∀ range ∈ ranges, bound ≤ range.1 ∧ range.1 ≤ range.2 := by
  induction ranges generalizing bound with
  | nil => simp
  | cons range rest ih =>
    obtain ⟨low, high⟩ := range
    simp only [ascendsFrom, Bool.and_eq_true, decide_eq_true_eq] at h
    intro other hmem
    rcases List.mem_cons.mp hmem with rfl | hmem
    · exact h.1
    · have := ih h.2 other hmem
      omega

theorem ascending_of_ascendsFrom {bound : Nat} {ranges : Ranges} (h : ascendsFrom bound ranges) :
    Ascending ranges := by
  refine ⟨fun range hmem => (bound_of_ascendsFrom h range hmem).2, ?_⟩
  induction ranges generalizing bound with
  | nil => exact List.Pairwise.nil
  | cons range rest ih =>
    obtain ⟨low, high⟩ := range
    simp only [ascendsFrom, Bool.and_eq_true] at h
    exact List.pairwise_cons.mpr ⟨fun other hmem => (bound_of_ascendsFrom h.2 other hmem).1, ih h.2⟩

/-- No range of one table meets a range of the other. -/
def disjoint (a b : Ranges) : Bool :=
  a.all fun x => b.all fun y => x.2 < y.1 || y.2 < x.1

theorem holds_iff {ranges : Ranges} {c : Char} :
    ranges.holds c ↔ ∃ range ∈ ranges, range.1 ≤ c.toNat ∧ c.toNat ≤ range.2 := by
  simp [holds]

theorem not_holds_of_disjoint {a b : Ranges} (h : disjoint a b) {c : Char} (ha : a.holds c) :
    b.holds c = false := by
  rw [Bool.eq_false_iff, Ne, holds_iff]
  rintro ⟨y, hy, hcy⟩
  obtain ⟨x, hx, hcx⟩ := holds_iff.mp ha
  have := List.all_eq_true.mp (List.all_eq_true.mp h x hx) y hy
  simp only [Bool.or_eq_true, decide_eq_true_eq] at this
  omega

end Ranges

theorem tables_ascending :
    ∀ table ∈ [Blank.whiteSpace, Alphanumeric.letters, Alphanumeric.numbers, Printable.unseen,
      Printable.joining], table.Ascending := by
  have h : ∀ table ∈ [Blank.whiteSpace, Alphanumeric.letters, Alphanumeric.numbers,
      Printable.unseen, Printable.joining], Ranges.ascendsFrom 0 table := by
    decide +kernel
  exact fun table hmem => Ranges.ascending_of_ascendsFrom (h table hmem)

/-! ## Kinds -/

theorem isAlphanumeric_of_isAlphabetic {c : Char} (h : Alphanumeric.isAlphabetic c) :
    Alphanumeric.isAlphanumeric c := by
  unfold Alphanumeric.isAlphabetic at h
  unfold Alphanumeric.isAlphanumeric
  split
  · rw [if_pos ‹_›] at h
    simp [Char.isAlphanum, h]
  · rw [if_neg ‹_›] at h
    simp [h]

theorem not_isAlphanumeric_of_isBlank {c : Char} (h : Blank.isBlank c) :
    Alphanumeric.isAlphanumeric c = false := by
  unfold Alphanumeric.isAlphanumeric
  split
  · rename_i ascii
    have check : ∀ n < 128, Blank.whiteSpace.holds (Char.ofNat n) →
        (Char.ofNat n).isAlphanum = false := by
      decide +kernel
    have := check c.toNat (Char.lt_def.mp ascii)
    rw [Char.ofNat_toNat] at this
    exact this h
  · rw [Ranges.not_holds_of_disjoint (by decide +kernel) h,
      Ranges.not_holds_of_disjoint (by decide +kernel) h]
    rfl

theorem Digits.toLower_of_isDecimal {c : Char} (h : Digits.isDecimal c) : c.toLower = c := by
  simp only [Digits.isDecimal, Bool.and_eq_true, decide_eq_true_eq] at h
  have h9 : c.toNat ≤ 57 := h.2
  have hA : ¬ 65 ≤ c.toNat := by omega
  unfold Char.toLower
  exact dif_neg fun hc => hA hc.1

end SandboxProbe.Text
