import SandboxProbe.Proofs.Text.Utf8

/-!
# Lines

`lines` cuts a text at its line feeds. A text that is put together from lines is cut into these lines
again exactly where none of them holds a line feed of its own; each one that does adds a line. Lossy
reading keeps line feeds, so those of a path are those of its bytes.
-/

namespace SandboxProbe.Text

/-- The lines of a text, without their ends. What is behind the last end, if anything is, is a line
too. -/
def lines : List Char → List (List Char)
  | [] => []
  | c :: r =>
    if c = '\n' then [] :: lines r
    else
      match lines r with
      | [] => [[c]]
      | line :: rest => (c :: line) :: rest

theorem lines_cons_of_ne {c : Char} {line r : List Char} {rest : List (List Char)} (h : c ≠ '\n')
    (hr : lines r = line :: rest) : lines (c :: r) = (c :: line) :: rest := by
  rw [lines, if_neg h, hr]

/-- A text that ends in a line feed before `r` is cut there, and once more at each line feed in it. -/
theorem length_lines_append (text r : List Char) :
    (lines (text ++ '\n' :: r)).length = text.count '\n' + 1 + (lines r).length := by
  induction text with
  | nil =>
    rw [List.nil_append, lines, if_pos rfl, List.length_cons, List.count_nil]
    omega
  | cons c text ih =>
    by_cases h : c = '\n'
    · subst h
      rw [List.cons_append, lines, if_pos rfl, List.length_cons, ih, List.count_cons_self]
      omega
    · have hcons : (lines (text ++ '\n' :: r)) ≠ [] := by
        intro hnil
        rw [hnil, List.length_nil] at ih
        omega
      obtain ⟨line, rest, hlines⟩ := List.exists_cons_of_ne_nil hcons
      rw [List.cons_append, lines_cons_of_ne h hlines, List.count_cons_of_ne h, ← ih, hlines]
      rfl

theorem lines_append {line : List Char} (h : '\n' ∉ line) (r : List Char) :
    lines (line ++ '\n' :: r) = line :: lines r := by
  induction line with
  | nil => rw [List.nil_append, lines, if_pos rfl]
  | cons c line ih =>
    rw [List.mem_cons, not_or] at h
    exact lines_cons_of_ne (Ne.symm h.1) (ih h.2)

/-- What stands before a line feed is cut as if nothing came behind it. -/
theorem lines_append_end (text r : List Char) :
    lines (text ++ '\n' :: r) = lines (text ++ ['\n']) ++ lines r := by
  induction text with
  | nil => rfl
  | cons c text ih =>
    by_cases h : c = '\n'
    · simp only [List.cons_append, lines, h, ite_true, ih]
    · have hlength := length_lines_append text []
      cases hlines : lines (text ++ ['\n']) with
      | nil =>
        rw [hlines, List.length_nil] at hlength
        omega
      | cons line rest =>
        rw [hlines] at ih
        rw [List.cons_append, List.cons_append, lines_cons_of_ne h ih, lines_cons_of_ne h hlines]
        rfl

/-- Every character that ends no line stands in one. -/
theorem mem_lines {c : Char} {text : List Char} (hc : c ∈ text) (h : c ≠ '\n') :
    ∃ line ∈ lines text, c ∈ line := by
  induction text with
  | nil => cases hc
  | cons d text ih =>
    rw [lines]
    by_cases hd : d = '\n'
    · rw [if_pos hd]
      have hne : c ≠ d := hd ▸ h
      obtain ⟨line, hline, hmem⟩ := ih (List.mem_of_ne_of_mem hne hc)
      exact ⟨line, List.mem_cons_of_mem _ hline, hmem⟩
    · rw [if_neg hd]
      rcases List.mem_cons.mp hc with rfl | hc
      · cases lines text <;> exact ⟨_, List.mem_cons_self, List.mem_cons_self⟩
      · obtain ⟨line, hline, hmem⟩ := ih hc
        cases hlines : lines text with
        | nil =>
          rw [hlines] at hline
          cases hline
        | cons first rest =>
          rw [hlines] at hline
          rcases List.mem_cons.mp hline with rfl | hline
          · exact ⟨_, List.mem_cons_self, List.mem_cons_of_mem _ hmem⟩
          · exact ⟨line, List.mem_cons_of_mem _ hline, hmem⟩

/-- The first `x` of a list ends its first part. -/
theorem append_cons_inj {α : Type} {x : α} {a b r r' : List α} (ha : x ∉ a) (hb : x ∉ b)
    (h : a ++ x :: r = b ++ x :: r') : a = b ∧ r = r' := by
  induction a generalizing b with
  | nil =>
    cases b with
    | nil => exact ⟨rfl, (List.cons.inj h).2⟩
    | cons y b => exact absurd ((List.cons.inj h).1 ▸ List.mem_cons_self) hb
  | cons y a ih =>
    cases b with
    | nil => exact absurd ((List.cons.inj h).1 ▸ List.mem_cons_self) ha
    | cons z b =>
      obtain ⟨rfl, hrest⟩ := List.cons.inj h
      obtain ⟨rfl, hr⟩ :=
        ih (List.not_mem_of_not_mem_cons ha) (List.not_mem_of_not_mem_cons hb) hrest
      exact ⟨rfl, hr⟩

/-! ## Lossy reading -/

namespace Utf8

/-- What has begun as `p` ends above the line feed, and no line feed goes on with it. -/
def Begun.AboveLineFeed (p : Begun) : Prop :=
  0x80 ≤ p.low.toNat ∧ 11 ≤ p.bits * 64 + (p.low.toNat - 0x80)

/-- Of what comes out and what is left begun, the line feeds are those of the bytes read. -/
def KeepsLineFeeds (bytes : Bytes) (read : List (Option Char) × Option Begun) : Prop :=
  read.1.count (some '\n') = bytes.count 10 ∧ ∀ p, read.2 = some p → p.AboveLineFeed

theorem ofNat_eq_lineFeed_iff {n : Nat} : Char.ofNat n = '\n' ↔ n = 10 := by
  refine ⟨fun h => ?_, fun h => h ▸ rfl⟩
  by_cases hv : n.isValidChar
  · exact (toNat_char hv).symm.trans (congrArg Char.toNat h)
  · rw [Char.ofNat, dif_neg hv] at h
    cases h

theorem count_singleton_byte {b : UInt8} (h : b.toNat ≠ 10) : List.count (10 : UInt8) [b] = 0 :=
  List.count_eq_zero.mpr fun hm => h (by rw [← List.mem_singleton.mp hm]; rfl)

theorem keepsLineFeeds_begins {b : UInt8} {p : Begun} (hb : 0x80 ≤ b.toNat) (h : p.AboveLineFeed) :
    KeepsLineFeeds [b] ([], some p) := by
  refine ⟨(count_singleton_byte (by omega)).symm, ?_⟩
  rintro _ ⟨⟩
  exact h

theorem keepsLineFeeds_enter (b : UInt8) : KeepsLineFeeds [b] (enter b) := by
  unfold enter
  have hlt : b.toNat < 256 := b.toNat_lt
  by_cases h₁ : b.toNat < 0x80
  · rw [lead_one h₁]
    refine ⟨?_, by simp⟩
    by_cases hb : b = 10
    · subst hb
      rfl
    · have hne : b.toNat ≠ 10 := fun h => hb (UInt8.toNat_inj.mp h)
      rw [count_singleton_byte hne]
      refine List.count_eq_zero.mpr fun hm => hne (ofNat_eq_lineFeed_iff.mp ?_)
      exact (Option.some.inj (List.mem_singleton.mp hm)).symm
  by_cases h₂ : b.toNat < 0xC2
  · rw [lead_bad (.inl ⟨by omega, h₂⟩)]
    exact ⟨(count_singleton_byte (by omega)).symm, by simp⟩
  by_cases h₃ : b.toNat < 0xE0
  · rw [lead_two (by omega) h₃]
    exact keepsLineFeeds_begins (by omega) ⟨by simp, by simp; omega⟩
  by_cases h₄ : b.toNat < 0xF0
  · rw [lead_three (by omega) h₄]
    refine keepsLineFeeds_begins (by omega) ?_
    by_cases h : b.toNat = 0xE0
    · simp [Begun.AboveLineFeed, h]
    · simp [Begun.AboveLineFeed, h]; omega
  by_cases h₅ : b.toNat ≤ 0xF4
  · rw [lead_four (by omega) h₅]
    refine keepsLineFeeds_begins (by omega) ?_
    by_cases h : b.toNat = 0xF0
    · simp [Begun.AboveLineFeed, h]
    · simp [Begun.AboveLineFeed, h]; omega
  · rw [lead_bad (.inr (by omega))]
    exact ⟨(count_singleton_byte (by omega)).symm, by simp⟩

theorem keepsLineFeeds_step {begun : Option Begun} (h : ∀ p, begun = some p → p.AboveLineFeed)
    (b : UInt8) : KeepsLineFeeds [b] (step begun b) := by
  cases begun with
  | none => exact keepsLineFeeds_enter b
  | some p =>
    obtain ⟨hlow, hbits⟩ := h p rfl
    simp only [step]
    split
    case isTrue hb =>
      have hge : p.low.toNat ≤ b.toNat := UInt8.le_iff_toNat_le.mp hb.1
      have habove : 11 ≤ p.bits * 64 + (b.toNat - 0x80) := by omega
      split
      · refine ⟨?_, by simp⟩
        rw [count_singleton_byte (by omega)]
        refine List.count_eq_zero.mpr fun hm => ?_
        have := ofNat_eq_lineFeed_iff.mp (Option.some.inj (List.mem_singleton.mp hm)).symm
        omega
      · exact keepsLineFeeds_begins (by omega) ⟨by simp, by simp; omega⟩
    case isFalse =>
      obtain ⟨hcount, habove⟩ := keepsLineFeeds_enter b
      exact ⟨by rw [List.count_cons_of_ne (by simp), hcount], habove⟩

theorem count_lineFeed_itemsFrom {begun : Option Begun}
    (h : ∀ p, begun = some p → p.AboveLineFeed) (bytes : Bytes) :
    (itemsFrom begun bytes).count (some '\n') = bytes.count 10 := by
  induction bytes generalizing begun with
  | nil => cases begun <;> rfl
  | cons b bytes ih =>
    obtain ⟨hcount, habove⟩ := keepsLineFeeds_step h b
    rw [itemsFrom, List.count_append, hcount, ih habove, ← List.count_append, List.singleton_append]

/-- Lossy reading neither adds nor loses a line feed. -/
theorem count_lineFeed_lossy (bytes : Bytes) :
    (lossy bytes).toList.count '\n' = bytes.count 10 := by
  have hmark : ((· == '\n') ∘ fun o : Option Char => o.getD '\uFFFD') = (· == some '\n') := by
    funext o
    cases o with
    | none => rfl
    | some c => simp
  rw [lossy, String.toList_ofList, List.count, List.countP_map, hmark]
  exact count_lineFeed_itemsFrom (by simp) bytes

theorem lineFeed_mem_lossy {bytes : Bytes} : '\n' ∈ (lossy bytes).toList ↔ 10 ∈ bytes := by
  rw [← List.count_pos_iff, count_lineFeed_lossy, List.count_pos_iff]

theorem lossy_encode (s : String) : lossy (encode s) = s := by
  rw [lossy, encode, items_encodeChars, List.map_map]
  exact (congrArg String.ofList (List.map_id _)).trans String.ofList_toList

end Utf8

end SandboxProbe.Text
