import SandboxProbe.Library

/-!
# Strict reading inverts encoding

`decode?_eq_some_iff`: strict reading gives a text exactly on its encoding. What bytes one character
takes is a table of byte ranges (`Sequence`): the encoding of a character is in it, and the machine
reads what is in it. A character that has begun is followed from byte to byte (`Completes`); the first
byte says how many follow and within which bounds, and these bounds are what makes the encoding of the
resulting character the bytes read. `decode?_eq_none_iff`: an overlong form, a surrogate, a value above
U+10FFFF or a character that breaks off is refused wherever it stands.
-/

namespace SandboxProbe.Text.Utf8

/-- The bytes `cont` complete the character that has begun as `p`, and it is `c`. -/
inductive Completes : Begun → Bytes → Char → Prop
  | last {p b} : p.owed ≤ 1 → p.low ≤ b → b ≤ p.high →
      Completes p [b] (Char.ofNat (p.bits * 64 + (b.toNat - 0x80)))
  | more {p b cont c} : 1 < p.owed → p.low ≤ b → b ≤ p.high →
      Completes ⟨p.bits * 64 + (b.toNat - 0x80), p.owed - 1, 0x80, 0xBF⟩ cont c →
      Completes p (b :: cont) c

theorem itemsFrom_completes {p : Begun} {cont : Bytes} {c : Char} (h : Completes p cont c)
    (rest : Bytes) : itemsFrom (some p) (cont ++ rest) = some c :: itemsFrom none rest := by
  induction h with
  | last ho hl hh => simp [itemsFrom, step, ho, hl, hh]
  | more ho hl hh _ ih =>
    simp only [List.cons_append, itemsFrom, step, hl, hh, and_self, ite_true,
      show ¬ _ ≤ 1 from Nat.not_le.mpr ho, ite_false, List.nil_append]
    exact ih

/-- A reading that does not begin with a mark begins by completing the character that has begun. -/
theorem completes_of_itemsFrom : ∀ (bytes : Bytes) (p : Begun),
    (itemsFrom (some p) bytes).head? ≠ some none →
      ∃ cont rest c, bytes = cont ++ rest ∧ Completes p cont c
  | [], p, h => by simp [itemsFrom] at h
  | b :: rest, p, h => by
    by_cases hb : p.low ≤ b ∧ b ≤ p.high
    · by_cases ho : p.owed ≤ 1
      · exact ⟨[b], rest, _, rfl, .last ho hb.1 hb.2⟩
      · simp only [itemsFrom, step, hb, and_self, ite_true, ho, ite_false, List.nil_append] at h
        obtain ⟨cont, rest', c, rfl, hc⟩ := completes_of_itemsFrom rest _ h
        exact ⟨b :: cont, rest', c, rfl, .more (Nat.lt_of_not_le ho) hb.1 hb.2 hc⟩
    · simp [itemsFrom, step, hb] at h

/-! ## First bytes -/

theorem lead_one {b : UInt8} (h : b.toNat < 0x80) : lead b = .alone (Char.ofNat b.toNat) := by
  have : b < 0x80 := UInt8.lt_iff_toNat_lt.mpr h
  simp [lead, this]

theorem lead_two {b : UInt8} (h₁ : 0xC2 ≤ b.toNat) (h₂ : b.toNat < 0xE0) :
    lead b = .begins ⟨b.toNat - 0xC0, 1, 0x80, 0xBF⟩ := by
  unfold lead
  simp only [UInt8.lt_iff_toNat_lt, UInt8.reduceToNat]
  rw [if_neg (by omega), if_neg (by omega), if_pos h₂]

/-- The bounds of the second of three bytes leave out overlong forms and surrogates. -/
theorem lead_three {b : UInt8} (h₁ : 0xE0 ≤ b.toNat) (h₂ : b.toNat < 0xF0) :
    lead b = .begins ⟨b.toNat - 0xE0, 2, if b.toNat = 0xE0 then 0xA0 else 0x80,
      if b.toNat = 0xED then 0x9F else 0xBF⟩ := by
  unfold lead
  simp only [UInt8.lt_iff_toNat_lt, ← UInt8.toNat_inj, UInt8.reduceToNat]
  rw [if_neg (by omega), if_neg (by omega), if_neg (by omega)]
  by_cases h₃ : b.toNat = 0xE0
  · simp [h₃]
  · by_cases h₄ : b.toNat = 0xED
    · simp [h₄]
    · simp [h₃, h₄, h₂]

/-- The bounds of the second of four bytes leave out overlong forms and values above U+10FFFF. -/
theorem lead_four {b : UInt8} (h₁ : 0xF0 ≤ b.toNat) (h₂ : b.toNat ≤ 0xF4) :
    lead b = .begins ⟨b.toNat - 0xF0, 3, if b.toNat = 0xF0 then 0x90 else 0x80,
      if b.toNat = 0xF4 then 0x8F else 0xBF⟩ := by
  unfold lead
  simp only [UInt8.lt_iff_toNat_lt, ← UInt8.toNat_inj, UInt8.reduceToNat]
  rw [if_neg (by omega), if_neg (by omega), if_neg (by omega), if_neg (by omega),
    if_neg (by omega), if_neg (by omega)]
  by_cases h₃ : b.toNat = 0xF0
  · simp [h₃]
  · by_cases h₄ : b.toNat = 0xF4
    · simp [h₄]
    · simp [h₃, h₄, show b.toNat < 0xF4 by omega]

theorem lead_bad {b : UInt8}
    (h : (0x80 ≤ b.toNat ∧ b.toNat < 0xC2) ∨ 0xF4 < b.toNat) : lead b = .bad := by
  unfold lead
  simp only [UInt8.lt_iff_toNat_lt, ← UInt8.toNat_inj, UInt8.reduceToNat]
  rcases h with ⟨h₁, h₂⟩ | h
  · rw [if_neg (by omega), if_pos h₂]
  · rw [if_neg (by omega), if_neg (by omega), if_neg (by omega), if_neg (by omega),
      if_neg (by omega), if_neg (by omega), if_neg (by omega), if_neg (by omega),
      if_neg (by omega)]

/-! ## The encoding of one character -/

theorem toNat_char {n : Nat} (h : n.isValidChar) : (Char.ofNat n).toNat = n := by
  rw [Char.ofNat, dif_pos h]
  rfl

theorem toNat_valid (c : Char) : c.toNat < 0xD800 ∨ 0xDFFF < c.toNat ∧ c.toNat < 0x110000 :=
  c.valid

theorem encode_one {c : Char} (h : c.toNat < 0x80) :
    String.utf8EncodeChar c = [UInt8.ofNat c.toNat] := by
  unfold String.utf8EncodeChar
  rw [if_pos (show c.val.toNat ≤ 0x7f from Nat.le_of_lt_succ h)]
  rfl

theorem encode_two {c : Char} (h₁ : 0x80 ≤ c.toNat) (h₂ : c.toNat < 0x800) :
    String.utf8EncodeChar c =
      [UInt8.ofNat (c.toNat / 64 + 0xC0), UInt8.ofNat (c.toNat % 64 + 0x80)] := by
  unfold String.utf8EncodeChar
  simp only [Char.toNat_val]
  rw [if_neg (by omega), if_pos (by omega), Nat.mod_eq_of_lt (show c.toNat / 64 < 0x20 by omega)]

theorem encode_three {c : Char} (h₁ : 0x800 ≤ c.toNat) (h₂ : c.toNat < 0x10000) :
    String.utf8EncodeChar c =
      [UInt8.ofNat (c.toNat / 4096 + 0xE0), UInt8.ofNat (c.toNat / 64 % 64 + 0x80),
       UInt8.ofNat (c.toNat % 64 + 0x80)] := by
  unfold String.utf8EncodeChar
  simp only [Char.toNat_val]
  rw [if_neg (by omega), if_neg (by omega), if_pos (by omega),
    Nat.mod_eq_of_lt (show c.toNat / 4096 < 0x10 by omega)]

theorem encode_four {c : Char} (h : 0x10000 ≤ c.toNat) :
    String.utf8EncodeChar c =
      [UInt8.ofNat (c.toNat / 262144 + 0xF0), UInt8.ofNat (c.toNat / 4096 % 64 + 0x80),
       UInt8.ofNat (c.toNat / 64 % 64 + 0x80), UInt8.ofNat (c.toNat % 64 + 0x80)] := by
  have := toNat_valid c
  unfold String.utf8EncodeChar
  simp only [Char.toNat_val]
  rw [if_neg (by omega), if_neg (by omega), if_neg (by omega),
    Nat.mod_eq_of_lt (show c.toNat / 262144 < 0x08 by omega)]

theorem toNat_byte {n : Nat} (h : n < 256) : (UInt8.ofNat n).toNat = n := by
  simpa using h

def Tail (b : UInt8) : Prop :=
  0x80 ≤ b ∧ b ≤ 0xBF

inductive Sequence : Bytes → Prop
  | one {a} : a ≤ 0x7F → Sequence [a]
  | two {a b} : 0xC2 ≤ a → a ≤ 0xDF → Tail b → Sequence [a, b]
  -- below A0 after E0 the form is overlong, above 9F after ED it is a surrogate
  | three {a b c} : 0xE0 ≤ a → a ≤ 0xEF → Tail b → Tail c →
      (a = 0xE0 → 0xA0 ≤ b) → (a = 0xED → b ≤ 0x9F) → Sequence [a, b, c]
  -- below 90 after F0 the form is overlong, above 8F after F4 the value is over U+10FFFF
  | four {a b c d} : 0xF0 ≤ a → a ≤ 0xF4 → Tail b → Tail c → Tail d →
      (a = 0xF0 → 0x90 ≤ b) → (a = 0xF4 → b ≤ 0x8F) → Sequence [a, b, c, d]

theorem tail_ofNat {n : Nat} (h₁ : 0x80 ≤ n) (h₂ : n ≤ 0xBF) : Tail (UInt8.ofNat n) := by
  have hn : (UInt8.ofNat n).toNat = n := toNat_byte (by omega)
  unfold Tail
  simp only [UInt8.le_iff_toNat_le, hn, UInt8.reduceToNat]
  exact ⟨h₁, h₂⟩

theorem sequence_encodeChar (c : Char) : Sequence (String.utf8EncodeChar c) := by
  have hv := toNat_valid c
  have hlast : Tail (UInt8.ofNat (c.toNat % 64 + 0x80)) := tail_ofNat (by omega) (by omega)
  have hnext : Tail (UInt8.ofNat (c.toNat / 64 % 64 + 0x80)) := tail_ofNat (by omega) (by omega)
  by_cases h₁ : c.toNat < 0x80
  · have ha : (UInt8.ofNat c.toNat).toNat = c.toNat := toNat_byte (by omega)
    rw [encode_one h₁]
    apply Sequence.one
    simp only [UInt8.le_iff_toNat_le, ha, UInt8.reduceToNat]
    omega
  by_cases h₂ : c.toNat < 0x800
  · have ha : (UInt8.ofNat (c.toNat / 64 + 0xC0)).toNat = c.toNat / 64 + 0xC0 :=
      toNat_byte (by omega)
    rw [encode_two (by omega) h₂]
    refine .two ?_ ?_ hlast <;> simp only [UInt8.le_iff_toNat_le, ha, UInt8.reduceToNat] <;> omega
  by_cases h₃ : c.toNat < 0x10000
  · have ha : (UInt8.ofNat (c.toNat / 4096 + 0xE0)).toNat = c.toNat / 4096 + 0xE0 :=
      toNat_byte (by omega)
    have hb : (UInt8.ofNat (c.toNat / 64 % 64 + 0x80)).toNat = c.toNat / 64 % 64 + 0x80 :=
      toNat_byte (by omega)
    rw [encode_three (by omega) h₃]
    refine .three ?_ ?_ hnext hlast ?_ ?_ <;>
      simp only [UInt8.le_iff_toNat_le, ← UInt8.toNat_inj, ha, hb, UInt8.reduceToNat] <;> omega
  · have ha : (UInt8.ofNat (c.toNat / 262144 + 0xF0)).toNat = c.toNat / 262144 + 0xF0 :=
      toNat_byte (by omega)
    have hb : (UInt8.ofNat (c.toNat / 4096 % 64 + 0x80)).toNat = c.toNat / 4096 % 64 + 0x80 :=
      toNat_byte (by omega)
    have hsecond : Tail (UInt8.ofNat (c.toNat / 4096 % 64 + 0x80)) :=
      tail_ofNat (by omega) (by omega)
    rw [encode_four (by omega)]
    refine .four ?_ ?_ hsecond hnext hlast ?_ ?_ <;>
      simp only [UInt8.le_iff_toNat_le, ← UInt8.toNat_inj, ha, hb, UInt8.reduceToNat] <;> omega

/-- The machine reads `bytes` as the character `c`. -/
inductive ReadsAs : Bytes → Char → Prop
  | alone {b c} : lead b = .alone c → ReadsAs [b] c
  | begins {b p cont c} : lead b = .begins p → Completes p cont c → ReadsAs (b :: cont) c

theorem readsAs_of_sequence {bytes : Bytes} (h : Sequence bytes) : ∃ c, ReadsAs bytes c := by
  cases h with
  | one ha =>
    simp only [UInt8.le_iff_toNat_le, UInt8.reduceToNat] at ha
    exact ⟨_, .alone (lead_one (by omega))⟩
  | two ha ha' hb =>
    simp only [UInt8.le_iff_toNat_le, UInt8.reduceToNat] at ha ha'
    exact ⟨_, .begins (lead_two ha (by omega)) (.last (Nat.le_refl 1) hb.1 hb.2)⟩
  | @three a b c ha ha' hb hc he hd =>
    simp only [UInt8.le_iff_toNat_le, UInt8.reduceToNat] at ha ha'
    have hlow : (if a.toNat = 0xE0 then 0xA0 else 0x80) ≤ b := by
      split
      case isTrue h => exact he (UInt8.toNat_inj.mp h)
      case isFalse => exact hb.1
    have hhigh : b ≤ (if a.toNat = 0xED then 0x9F else 0xBF) := by
      split
      case isTrue h => exact hd (UInt8.toNat_inj.mp h)
      case isFalse => exact hb.2
    exact ⟨_, .begins (lead_three ha (by omega))
      (.more Nat.one_lt_two hlow hhigh (.last (Nat.le_refl 1) hc.1 hc.2))⟩
  | @four a b c d ha ha' hb hc hd h₀ h₄ =>
    simp only [UInt8.le_iff_toNat_le, UInt8.reduceToNat] at ha ha'
    have hlow : (if a.toNat = 0xF0 then 0x90 else 0x80) ≤ b := by
      split
      case isTrue h => exact h₀ (UInt8.toNat_inj.mp h)
      case isFalse => exact hb.1
    have hhigh : b ≤ (if a.toNat = 0xF4 then 0x8F else 0xBF) := by
      split
      case isTrue h => exact h₄ (UInt8.toNat_inj.mp h)
      case isFalse => exact hb.2
    exact ⟨_, .begins (lead_four ha ha')
      (.more (Nat.lt_add_one_of_lt Nat.one_lt_two) hlow hhigh
        (.more Nat.one_lt_two hc.1 hc.2 (.last (Nat.le_refl 1) hd.1 hd.2)))⟩

/-! ## The character of some bytes -/

theorem ofNat_byte {b : UInt8} {n : Nat} (h : n = b.toNat) : UInt8.ofNat n = b := by
  rw [h, UInt8.ofNat_toNat]

theorem completes_one {p : Begun} {cont : Bytes} {c : Char} (ho : p.owed ≤ 1)
    (h : Completes p cont c) :
    ∃ b, cont = [b] ∧ p.low.toNat ≤ b.toNat ∧ b.toNat ≤ p.high.toNat ∧
      c = Char.ofNat (p.bits * 64 + (b.toNat - 0x80)) := by
  cases h with
  | last _ hl hh => exact ⟨_, rfl, UInt8.le_iff_toNat_le.mp hl, UInt8.le_iff_toNat_le.mp hh, rfl⟩
  | more ho' => exact absurd ho (Nat.not_le.mpr ho')

theorem completes_cons {p : Begun} {cont : Bytes} {c : Char} (ho : 1 < p.owed)
    (h : Completes p cont c) :
    ∃ b cont', cont = b :: cont' ∧ p.low.toNat ≤ b.toNat ∧ b.toNat ≤ p.high.toNat ∧
      Completes ⟨p.bits * 64 + (b.toNat - 0x80), p.owed - 1, 0x80, 0xBF⟩ cont' c := by
  cases h with
  | last ho' => exact absurd ho' (Nat.not_le.mpr ho)
  | more _ hl hh hc =>
    exact ⟨_, _, rfl, UInt8.le_iff_toNat_le.mp hl, UInt8.le_iff_toNat_le.mp hh, hc⟩

theorem encode_of_two {b : UInt8} {cont : Bytes} {c : Char} (h₁ : 0xC2 ≤ b.toNat)
    (h₂ : b.toNat < 0xE0) (hc : Completes ⟨b.toNat - 0xC0, 1, 0x80, 0xBF⟩ cont c) :
    String.utf8EncodeChar c = b :: cont := by
  obtain ⟨b₂, rfl, hl, hh, hc⟩ := completes_one (Nat.le_refl 1) hc
  simp only [UInt8.reduceToNat] at hl hh
  have hn : c.toNat = (b.toNat - 0xC0) * 64 + (b₂.toNat - 0x80) := by
    dsimp only at hc
    rw [hc, toNat_char (.inl (by omega))]
  rw [encode_two (by omega) (by omega), ofNat_byte (b := b) (by omega),
    ofNat_byte (b := b₂) (by omega)]

theorem encode_of_three {b : UInt8} {cont : Bytes} {c : Char} (h₁ : 0xE0 ≤ b.toNat)
    (h₂ : b.toNat < 0xF0)
    (hc : Completes ⟨b.toNat - 0xE0, 2, if b.toNat = 0xE0 then 0xA0 else 0x80,
      if b.toNat = 0xED then 0x9F else 0xBF⟩ cont c) :
    String.utf8EncodeChar c = b :: cont := by
  obtain ⟨b₂, cont', rfl, hl₂, hh₂, hc⟩ := completes_cons Nat.one_lt_two hc
  obtain ⟨b₃, rfl, hl₃, hh₃, hc⟩ := completes_one (Nat.le_refl 1) hc
  simp only [apply_ite UInt8.toNat, UInt8.reduceToNat] at hl₂ hh₂ hl₃ hh₃
  have hlow : 0x80 ≤ b₂.toNat := by split at hl₂ <;> omega
  have hhigh : b₂.toNat ≤ 0xBF := by split at hh₂ <;> omega
  have hn : c.toNat =
      ((b.toNat - 0xE0) * 64 + (b₂.toNat - 0x80)) * 64 + (b₃.toNat - 0x80) := by
    dsimp only at hc
    rw [hc, toNat_char]
    by_cases hs : b.toNat ≤ 0xED
    · left; split at hh₂ <;> omega
    · right; constructor <;> omega
  rw [encode_three (by split at hl₂ <;> omega) (by omega), ofNat_byte (b := b) (by omega),
    ofNat_byte (b := b₂) (by omega), ofNat_byte (b := b₃) (by omega)]

theorem encode_of_four {b : UInt8} {cont : Bytes} {c : Char} (h₁ : 0xF0 ≤ b.toNat)
    (h₂ : b.toNat ≤ 0xF4)
    (hc : Completes ⟨b.toNat - 0xF0, 3, if b.toNat = 0xF0 then 0x90 else 0x80,
      if b.toNat = 0xF4 then 0x8F else 0xBF⟩ cont c) :
    String.utf8EncodeChar c = b :: cont := by
  obtain ⟨b₂, cont', rfl, hl₂, hh₂, hc⟩ :=
    completes_cons (Nat.lt_add_one_of_lt Nat.one_lt_two) hc
  obtain ⟨b₃, cont'', rfl, hl₃, hh₃, hc⟩ := completes_cons Nat.one_lt_two hc
  obtain ⟨b₄, rfl, hl₄, hh₄, hc⟩ := completes_one (Nat.le_refl 1) hc
  simp only [apply_ite UInt8.toNat, UInt8.reduceToNat] at hl₂ hh₂ hl₃ hh₃ hl₄ hh₄
  have hlow : 0x80 ≤ b₂.toNat := by split at hl₂ <;> omega
  have hhigh : b₂.toNat ≤ 0xBF := by split at hh₂ <;> omega
  have hn : c.toNat =
      (((b.toNat - 0xF0) * 64 + (b₂.toNat - 0x80)) * 64 + (b₃.toNat - 0x80)) * 64 +
        (b₄.toNat - 0x80) := by
    dsimp only at hc
    rw [hc, toNat_char]
    right; split at hl₂ <;> split at hh₂ <;> omega
  rw [encode_four (by split at hl₂ <;> omega), ofNat_byte (b := b) (by omega),
    ofNat_byte (b := b₂) (by omega), ofNat_byte (b := b₃) (by omega),
    ofNat_byte (b := b₄) (by omega)]

theorem encode_readsAs {bytes : Bytes} {c : Char} (h : ReadsAs bytes c) :
    String.utf8EncodeChar c = bytes := by
  cases h with
  | @alone b _ hl =>
    by_cases h₁ : b.toNat < 0x80
    · rw [lead_one h₁] at hl
      injection hl with hl
      have hn : c.toNat = b.toNat := by rw [← hl, toNat_char (.inl (by omega))]
      rw [encode_one (by omega), ofNat_byte hn]
    by_cases h₂ : b.toNat < 0xC2 ∨ 0xF4 < b.toNat
    · rw [lead_bad (by omega)] at hl; cases hl
    by_cases h₃ : b.toNat < 0xE0
    · rw [lead_two (by omega) h₃] at hl; cases hl
    by_cases h₄ : b.toNat < 0xF0
    · rw [lead_three (by omega) h₄] at hl; cases hl
    · rw [lead_four (by omega) (by omega)] at hl; cases hl
  | @begins b p cont _ hl hc =>
    by_cases h₁ : b.toNat < 0x80
    · rw [lead_one h₁] at hl; cases hl
    by_cases h₂ : b.toNat < 0xC2 ∨ 0xF4 < b.toNat
    · rw [lead_bad (by omega)] at hl; cases hl
    by_cases h₃ : b.toNat < 0xE0
    · rw [lead_two (by omega) h₃] at hl
      injection hl with hl
      exact encode_of_two (by omega) h₃ (hl ▸ hc)
    by_cases h₄ : b.toNat < 0xF0
    · rw [lead_three (by omega) h₄] at hl
      injection hl with hl
      exact encode_of_three (by omega) h₄ (hl ▸ hc)
    · rw [lead_four (by omega) (by omega)] at hl
      injection hl with hl
      exact encode_of_four (by omega) (by omega) (hl ▸ hc)

theorem encodeChar_injective {c d : Char} (h : String.utf8EncodeChar c = String.utf8EncodeChar d) :
    c = d := by
  have hc : [c].utf8Encode.utf8DecodeChar? 0 = some c := List.utf8DecodeChar?_utf8Encode_singleton
  have hd : [d].utf8Encode.utf8DecodeChar? 0 = some d := List.utf8DecodeChar?_utf8Encode_singleton
  have hsame : [c].utf8Encode = [d].utf8Encode := by simp [List.utf8Encode, h]
  rw [hsame, hd] at hc
  exact (Option.some.inj hc).symm

theorem readsAs_encode (c : Char) : ReadsAs (String.utf8EncodeChar c) c := by
  obtain ⟨d, hd⟩ := readsAs_of_sequence (sequence_encodeChar c)
  have hsame : d = c := encodeChar_injective (encode_readsAs hd)
  exact hsame ▸ hd

/-! ## Whole texts -/

theorem itemsFrom_readsAs {bytes : Bytes} {c : Char} (h : ReadsAs bytes c) (rest : Bytes) :
    itemsFrom none (bytes ++ rest) = some c :: itemsFrom none rest := by
  cases h with
  | alone hl => simp [itemsFrom, step, enter, hl]
  | begins hl hc => simp [itemsFrom, step, enter, hl, itemsFrom_completes hc]

theorem items_encodeChars : ∀ (s : List Char), items (encodeChars s) = s.map some
  | [] => rfl
  | c :: s => by
    have ih := items_encodeChars s
    simp only [items, encodeChars, List.flatMap_cons] at ih ⊢
    rw [itemsFrom_readsAs (readsAs_encode c), ih, List.map_cons]

/-- Bytes begin with a character exactly if they begin with its encoding. -/
theorem items_eq_cons_iff {bytes : Bytes} {c : Char} :
    (∃ more, items bytes = some c :: more) ↔ String.utf8EncodeChar c <+: bytes := by
  constructor
  · rintro ⟨more, h⟩
    cases bytes with
    | nil => simp [items, itemsFrom] at h
    | cons b rest =>
      simp only [items, itemsFrom, step, enter] at h
      cases hl : lead b with
      | alone d =>
        simp only [hl, List.cons_append, List.nil_append, List.cons.injEq, Option.some.injEq] at h
        rw [← h.1, encode_readsAs (.alone hl)]
        simp
      | begins p =>
        simp only [hl, List.nil_append] at h
        obtain ⟨cont, rest', d, rfl, hc⟩ := completes_of_itemsFrom rest p (by simp [h])
        rw [itemsFrom_completes hc, List.cons.injEq, Option.some.injEq] at h
        rw [← h.1, encode_readsAs (.begins hl hc)]
        simp
      | bad => simp [hl] at h
  · rintro ⟨rest, rfl⟩
    exact ⟨itemsFrom none rest, itemsFrom_readsAs (readsAs_encode c) rest⟩

theorem eq_encodeChars_of_items : ∀ (cs : List Char) (bytes : Bytes),
    items bytes = cs.map some → bytes = encodeChars cs
  | [], [], _ => rfl
  | _ :: _, [], h => by simp [items, itemsFrom] at h
  | cs, b :: rest, h => by
    simp only [items, itemsFrom, step, enter] at h
    cases hl : lead b with
    | alone c =>
      rw [hl] at h
      cases cs with
      | nil => simp at h
      | cons c' cs' =>
        simp only [List.cons_append, List.nil_append, List.map_cons, List.cons.injEq,
          Option.some.injEq] at h
        obtain ⟨rfl, h⟩ := h
        rw [eq_encodeChars_of_items cs' rest h, encodeChars, encodeChars, List.flatMap_cons,
          encode_readsAs (.alone hl)]
        rfl
    | begins p =>
      rw [hl, List.nil_append] at h
      have unmarked : (itemsFrom (some p) rest).head? ≠ some none := by
        rw [h]
        cases cs <;> simp
      obtain ⟨cont, rest', c, rfl, hc⟩ := completes_of_itemsFrom rest p unmarked
      rw [itemsFrom_completes hc] at h
      cases cs with
      | nil => simp at h
      | cons c' cs' =>
        simp only [List.map_cons, List.cons.injEq, Option.some.injEq] at h
        obtain ⟨rfl, hr⟩ := h
        rw [eq_encodeChars_of_items cs' rest' hr, encodeChars, encodeChars, List.flatMap_cons,
          encode_readsAs (.begins hl hc)]
        rfl
    | bad =>
      rw [hl] at h
      cases cs <;> simp at h

theorem mapM_id_eq_some {α : Type} : ∀ (l : List (Option α)) (cs : List α),
    l.mapM id = some cs ↔ l = cs.map some
  | [], cs => by cases cs <;> simp
  | none :: l, cs => by cases cs <;> simp
  | some a :: l, cs => by
    have ih := mapM_id_eq_some l
    cases cs with
    | nil => cases hl : l.mapM id <;> simp [hl]
    | cons c cs =>
      cases hl : l.mapM id with
      | none => simp [hl, ← ih cs]
      | some ds => simp [hl, ← ih cs]

theorem decode?_eq_some_iff {bytes : Bytes} {s : String} :
    decode? bytes = some s ↔ bytes = encode s := by
  unfold decode? encode
  rw [Option.map_eq_some_iff]
  constructor
  · rintro ⟨cs, hcs, rfl⟩
    rw [String.toList_ofList]
    exact eq_encodeChars_of_items cs bytes ((mapM_id_eq_some _ _).mp hcs)
  · rintro rfl
    refine ⟨s.toList, ?_, String.ofList_toList⟩
    rw [mapM_id_eq_some]
    exact items_encodeChars s.toList

theorem decode?_encode (s : String) : decode? (encode s) = some s :=
  decode?_eq_some_iff.mpr rfl

theorem encode_injective {s t : String} (h : encode s = encode t) : s = t := by
  have := decode?_encode s
  rw [h, decode?_encode t] at this
  exact (Option.some.inj this).symm

/-! ## Well-formed texts -/

inductive WellFormed : Bytes → Prop
  | nil : WellFormed []
  | cons {first rest} : Sequence first → WellFormed rest → WellFormed (first ++ rest)

theorem wellFormed_encodeChars (cs : List Char) : WellFormed (encodeChars cs) := by
  induction cs with
  | nil => exact .nil
  | cons c cs ih => exact .cons (sequence_encodeChar c) ih

theorem encodeChars_of_wellFormed {bytes : Bytes} (h : WellFormed bytes) :
    ∃ cs, bytes = encodeChars cs := by
  induction h with
  | nil => exact ⟨[], rfl⟩
  | cons hfirst _ ih =>
    obtain ⟨c, hc⟩ := readsAs_of_sequence hfirst
    obtain ⟨cs, rfl⟩ := ih
    refine ⟨c :: cs, ?_⟩
    rw [← encode_readsAs hc]
    rfl

theorem wellFormed_iff {bytes : Bytes} : WellFormed bytes ↔ ∃ text, bytes = encode text := by
  constructor
  · intro h
    obtain ⟨cs, rfl⟩ := encodeChars_of_wellFormed h
    exact ⟨String.ofList cs, by rw [encode, String.toList_ofList]⟩
  · rintro ⟨text, rfl⟩
    exact wellFormed_encodeChars text.toList

/-- The table says what the standard library says. -/
theorem wellFormed_iff_isValidUTF8 {bytes : Bytes} :
    WellFormed bytes ↔ bytes.toByteArray.IsValidUTF8 := by
  constructor
  · intro h
    obtain ⟨cs, rfl⟩ := encodeChars_of_wellFormed h
    exact .intro cs rfl
  · rintro ⟨cs, h⟩
    obtain rfl : bytes = encodeChars cs := List.toByteArray_inj.mp h
    exact wellFormed_encodeChars cs

theorem exists_decode?_iff {bytes : Bytes} :
    (∃ text, decode? bytes = some text) ↔ WellFormed bytes := by
  simp only [decode?_eq_some_iff, wellFormed_iff]

theorem decode?_eq_none_iff {bytes : Bytes} : decode? bytes = none ↔ ¬ WellFormed bytes := by
  rw [← exists_decode?_iff, Option.eq_none_iff_forall_ne_some, not_exists]

/-! ## NUL -/

theorem zero_mem_encodeChar {c : Char} : 0 ∈ String.utf8EncodeChar c ↔ c = '\x00' := by
  constructor
  · intro h
    have hz : ∀ {n : Nat}, 0 = UInt8.ofNat n → n < 256 → n = 0 := by
      intro n h hn
      rw [← toNat_byte hn, ← h]
      rfl
    have hv := toNat_valid c
    by_cases h₁ : c.toNat < 0x80
    · rw [encode_one h₁, List.mem_singleton] at h
      exact Char.toNat_inj.mp (hz h (by omega))
    exfalso
    by_cases h₂ : c.toNat < 0x800
    · rw [encode_two (by omega) h₂] at h
      simp only [List.mem_cons, List.not_mem_nil, or_false] at h
      rcases h with h | h <;> have := hz h (by omega) <;> omega
    by_cases h₃ : c.toNat < 0x10000
    · rw [encode_three (by omega) h₃] at h
      simp only [List.mem_cons, List.not_mem_nil, or_false] at h
      rcases h with h | h | h <;> have := hz h (by omega) <;> omega
    · rw [encode_four (by omega)] at h
      simp only [List.mem_cons, List.not_mem_nil, or_false] at h
      rcases h with h | h | h | h <;> have := hz h (by omega) <;> omega
  · rintro rfl
    decide

theorem holdsNul_encode (s : String) :
    Library.holdsNul (encode s) = true ↔ '\x00' ∈ s.toList := by
  unfold Library.holdsNul encode encodeChars
  rw [List.contains_iff_mem, List.mem_flatMap]
  constructor
  · rintro ⟨c, hc, h⟩
    exact zero_mem_encodeChar.mp h ▸ hc
  · intro h
    exact ⟨_, h, zero_mem_encodeChar.mpr rfl⟩

end SandboxProbe.Text.Utf8
