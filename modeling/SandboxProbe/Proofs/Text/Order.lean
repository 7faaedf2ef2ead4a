import Mathlib.Algebra.Ring.Nat
import SandboxProbe.Proofs.Text.Utf8

/-!
# Texts in the order of their bytes

`encode_lt_iff`: comparing two texts character by character is comparing their encodings byte by byte.
A character that takes more bytes begins with a higher one, and of two that take equally many the
groups of bits are compared from the high ones down.
-/

namespace SandboxProbe.Text.Utf8

/-- The last `k` groups of six bits of a number, the high ones first, as they stand behind the first
byte of a character. -/
def sixBits : Nat → Nat → Bytes
  | 0, _ => []
  | k + 1, n => UInt8.ofNat (n / 64 ^ k % 64 + 0x80) :: sixBits k n

theorem byte_cons_lt {m n : Nat} {a b : Bytes} (hn : n < 256) (h : m < n ∨ m = n ∧ a < b) :
    UInt8.ofNat m :: a < UInt8.ofNat n :: b := by
  rw [List.cons_lt_cons_iff]
  rcases h with hlt | ⟨rfl, hab⟩
  · left
    rw [UInt8.lt_iff_toNat_lt, toNat_byte (by omega), toNat_byte hn]
    exact hlt
  · exact .inr ⟨rfl, hab⟩

theorem sixBits_append_lt {k m n : Nat} (h : m % 64 ^ k < n % 64 ^ k) (a b : Bytes) :
    sixBits k m ++ a < sixBits k n ++ b := by
  induction k with
  | zero => simp [Nat.mod_one] at h
  | succ k ih =>
    rw [Nat.mod_pow_succ, Nat.mod_pow_succ] at h
    apply byte_cons_lt (by omega)
    have hm : m % 64 ^ k < 64 ^ k := Nat.mod_lt _ (Nat.pow_pos (by decide))
    rcases Nat.lt_trichotomy (m / 64 ^ k % 64) (n / 64 ^ k % 64) with hlt | heq | hgt
    · exact .inl (by omega)
    · rw [heq] at h
      exact .inr ⟨by omega, ih (by omega)⟩
    · have hle := Nat.mul_le_mul_left (64 ^ k) (Nat.succ_le_of_lt hgt)
      rw [Nat.succ_eq_add_one, Nat.mul_add] at hle
      omega

/-- How many bytes stand behind the first one of a character, and what marks the first one for it. -/
theorem encodeChar_eq_cons (c : Char) : ∃ k mark,
    String.utf8EncodeChar c = UInt8.ofNat (c.toNat / 64 ^ k + mark) :: sixBits k c.toNat ∧
      (k = 0 ∧ mark = 0 ∧ c.toNat < 0x80 ∨
        k = 1 ∧ mark = 0xC0 ∧ 0x80 ≤ c.toNat ∧ c.toNat < 0x800 ∨
        k = 2 ∧ mark = 0xE0 ∧ 0x800 ≤ c.toNat ∧ c.toNat < 0x10000 ∨
        k = 3 ∧ mark = 0xF0 ∧ 0x10000 ≤ c.toNat) := by
  by_cases h₁ : c.toNat < 0x80
  · exact ⟨0, 0, by simp [encode_one h₁, sixBits], by omega⟩
  by_cases h₂ : c.toNat < 0x800
  · exact ⟨1, 0xC0, by simp [encode_two (by omega) h₂, sixBits], by omega⟩
  by_cases h₃ : c.toNat < 0x10000
  · exact ⟨2, 0xE0, by simp [encode_three (by omega) h₃, sixBits], by omega⟩
  · exact ⟨3, 0xF0, by simp [encode_four (Nat.not_lt.mp h₃), sixBits], by omega⟩

/-- The smaller of two characters has the smaller encoding, whatever stands behind them. -/
theorem encodeChar_append_lt {c d : Char} (h : c < d) (a b : Bytes) :
    String.utf8EncodeChar c ++ a < String.utf8EncodeChar d ++ b := by
  have hlt : c.toNat < d.toNat := h
  have hv := toNat_valid d
  obtain ⟨k, mark, hc, hk⟩ := encodeChar_eq_cons c
  obtain ⟨k', mark', hd, hk'⟩ := encodeChar_eq_cons d
  rw [hc, hd]
  have hbyte : d.toNat / 64 ^ k' + mark' < 256 := by
    rcases hk' with ⟨rfl, rfl, _⟩ | ⟨rfl, rfl, _, _⟩ | ⟨rfl, rfl, _, _⟩ | ⟨rfl, rfl, _⟩ <;> omega
  -- the first bytes decide, unless the characters take equally many bytes
  have hfirst : c.toNat / 64 ^ k + mark < d.toNat / 64 ^ k' + mark' ∨
      (k = k' ∧ c.toNat / 64 ^ k + mark = d.toNat / 64 ^ k' + mark') ∧
        c.toNat % 64 ^ k < d.toNat % 64 ^ k' := by
    rcases hk with ⟨rfl, rfl, _⟩ | ⟨rfl, rfl, _, _⟩ | ⟨rfl, rfl, _, _⟩ | ⟨rfl, rfl, _⟩ <;>
      rcases hk' with ⟨rfl, rfl, _⟩ | ⟨rfl, rfl, _, _⟩ | ⟨rfl, rfl, _, _⟩ | ⟨rfl, rfl, _⟩ <;>
        omega
  apply byte_cons_lt hbyte
  rcases hfirst with hlt | ⟨⟨rfl, heq⟩, hmod⟩
  · exact .inl hlt
  · exact .inr ⟨heq, sixBits_append_lt hmod a b⟩

theorem encodeChars_lt {s t : List Char} (h : s < t) : encodeChars s < encodeChars t := by
  induction h with
  | @nil d t =>
    obtain ⟨k, mark, hd, -⟩ := encodeChar_eq_cons d
    rw [encodeChars, encodeChars, List.flatMap_cons, hd]
    exact List.nil_lt_cons _ _
  | cons _ ih => exact List.append_left_lt ih
  | rel hcd => exact encodeChar_append_lt hcd _ _

/-- Texts are in the order of their bytes. -/
theorem encode_lt_iff {s t : String} : encode s < encode t ↔ s < t := by
  constructor
  · intro h
    refine Decidable.byContradiction fun hle => ?_
    rcases List.le_iff_lt_or_eq.mp (List.not_lt.mp hle) with hlt | heq
    · exact List.lt_asymm h (encodeChars_lt hlt)
    · rw [String.toList_inj.mp heq] at h
      exact List.lt_irrefl _ h
  · exact encodeChars_lt

end SandboxProbe.Text.Utf8
