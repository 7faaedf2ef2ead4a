import Mathlib.Data.List.TakeWhile
import SandboxProbe.Json.Reader

/-!
# The documents that the reader reads

The grammar of JSON for the values of this library, as relations between a value and a text that stands
for it. `read?_sound`: whatever the reader accepts is a document of the grammar, so nothing else than
blanks stands around or inside it, every escape is one of the format, and no object has a key twice.
-/

namespace SandboxProbe.Json

open Text

/-! ## The grammar -/

def Blanks (ws : List Char) : Prop :=
  ∀ c ∈ ws, isBlank c = true

/-- What stands between the marks of a string, and the characters that it stands for. -/
inductive Chars : List Char → List Char → Prop
  | nil : Chars [] []
  | plain {c : Char} {t s : List Char} : ¬c < ' ' → c ≠ '"' → c ≠ '\\' → Chars t s →
      Chars (c :: t) (c :: s)
  | letter {e c : Char} {t s : List Char} : unescape? e = some c → Chars t s →
      Chars ('\\' :: e :: t) (c :: s)
  | unit {a b c d : Char} {n : Nat} {t s : List Char} : unit? a b c d = some n →
      ¬(0xD800 ≤ n ∧ n < 0xE000) → Chars t s →
      Chars ('\\' :: 'u' :: a :: b :: c :: d :: t) (Char.ofNat n :: s)
  | pair {a b c d e f g h : Char} {high low : Nat} {t s : List Char} :
      unit? a b c d = some high → 0xD800 ≤ high → high < 0xDC00 →
      unit? e f g h = some low → 0xDC00 ≤ low → low < 0xE000 → Chars t s →
      Chars ('\\' :: 'u' :: a :: b :: c :: d :: '\\' :: 'u' :: e :: f :: g :: h :: t)
        (Char.ofNat (0x10000 + (high - 0xD800) * 0x400 + (low - 0xDC00)) :: s)

inductive Quoted : String → List Char → Prop
  | mk {t s : List Char} : Chars t s → Quoted (String.ofList s) ('"' :: t ++ ['"'])

/-- Digits that do not begin with a zero, unless they are one. -/
structure Numeral (n : Nat) (ds : List Char) : Prop where
  digits : ∀ c ∈ ds, Digits.isDecimal c = true
  nonempty : ds ≠ []
  noZero : ∀ c r, ds ≠ '0' :: c :: r
  value : Digits.value ds = n

inductive Number : Int → List Char → Prop
  | plain {n : Nat} {ds : List Char} : Numeral n ds → Number n ds
  | minus {n : Nat} {ds : List Char} : Numeral n ds → Number (-(n : Int)) ('-' :: ds)

mutual

inductive Value : Json → List Char → Prop
  | null : Value .null "null".toList
  | true : Value (.bool true) "true".toList
  | false : Value (.bool false) "false".toList
  | number {n : Int} {t : List Char} : Number n t → Value (.number n) t
  | string {s : String} {t : List Char} : Quoted s t → Value (.string s) t
  | empty {ws : List Char} : Blanks ws → Value (.object []) ('\x7b' :: ws ++ ['\x7d'])
  | object {ws t : List Char} {fields : List (String × Json)} : Blanks ws → Fields fields t →
      Value (.object fields) ('\x7b' :: ws ++ t ++ ['\x7d'])

/-- Fields with commas between them, up to the brace that closes their object. -/
inductive Fields : List (String × Json) → List Char → Prop
  | last {k : String} {v : Json} {kt ws₁ ws₂ t ws₃ : List Char} : Quoted k kt → Blanks ws₁ →
      Blanks ws₂ → Value v t → Blanks ws₃ →
      Fields [(k, v)] (kt ++ ws₁ ++ ':' :: ws₂ ++ t ++ ws₃)
  | more {k : String} {v : Json} {fields : List (String × Json)}
      {kt ws₁ ws₂ t ws₃ ws₄ more : List Char} : Quoted k kt → Blanks ws₁ → Blanks ws₂ →
      Value v t → Blanks ws₃ → Blanks ws₄ → Fields fields more → k ∉ fields.map Prod.fst →
      Fields ((k, v) :: fields) (kt ++ ws₁ ++ ':' :: ws₂ ++ t ++ ws₃ ++ ',' :: ws₄ ++ more)

end

inductive Document : Json → String → Prop
  | mk {v : Json} {before t after : List Char} : Blanks before → Value v t → Blanks after →
      Document v (String.ofList (before ++ t ++ after))

/-! ## What is read is a document -/

theorem skipBlanks_split (s : List Char) : ∃ ws, Blanks ws ∧ s = ws ++ skipBlanks s :=
  ⟨s.takeWhile isBlank, fun _ => List.mem_takeWhile_imp, List.takeWhile_append_dropWhile.symm⟩

theorem word?_sound {w s rest : List Char} (h : word? w s = some rest) : s = w ++ rest := by
  induction w generalizing s with
  | nil => cases h; rfl
  | cons c w ih =>
    cases s with
    | nil => cases h
    | cons d s =>
      rw [word?] at h
      split at h
      · rename_i same
        rw [same, ih h, List.cons_append]
      · cases h

theorem of_read_cons {read : Option (List Char × List Char)} {c : Char} {t rest : List Char}
    (h : (do let (s, rest) ← read; return (c :: s, rest)) = some (t, rest)) :
    ∃ s, read = some (s, rest) ∧ t = c :: s := by
  cases read with
  | none => cases h
  | some r => cases h; exact ⟨r.1, rfl, rfl⟩

theorem readString_sound {s t rest : List Char} (h : readString s = some (t, rest)) :
    ∃ body, s = body ++ '"' :: rest ∧ Chars body t := by
  fun_induction readString s generalizing t rest with
  | case1 => cases h
  | case2 r => cases h; exact ⟨[], rfl, .nil⟩
  | case3 a b c d r pairRest ih =>
    obtain ⟨high, units, h⟩ := Option.bind_eq_some_iff.mp h
    split at h
    · rename_i isHigh
      split at h
      · obtain ⟨low, units', h⟩ := Option.bind_eq_some_iff.mp h
        split at h
        · rename_i isLow
          obtain ⟨s, read, rfl⟩ := of_read_cons h
          obtain ⟨body, split, chars⟩ := pairRest read
          exact ⟨_, by rw [split]; rfl,
            .pair units isHigh.1 isHigh.2 units' isLow.1 isLow.2 chars⟩
        · cases h
      · cases h
    · rename_i notHigh
      split at h
      · cases h
      · rename_i notLow
        obtain ⟨s, read, rfl⟩ := of_read_cons h
        obtain ⟨body, split, chars⟩ := ih read
        exact ⟨_, by rw [split]; rfl, .unit units (by omega) chars⟩
  | case4 e r _ ih =>
    obtain ⟨c, letter, h⟩ := Option.bind_eq_some_iff.mp h
    obtain ⟨s, read, rfl⟩ := of_read_cons h
    obtain ⟨body, split, chars⟩ := ih read
    exact ⟨_, by rw [split]; rfl, .letter letter chars⟩
  | case5 => cases h
  | case6 c r notQuote _ _ plain ih =>
    obtain ⟨s, read, rfl⟩ := of_read_cons h
    obtain ⟨body, split, chars⟩ := ih read
    have notControl : ¬c < ' ' := fun control => plain (.inl control)
    have notSlash : c ≠ '\\' := fun slash => plain (.inr slash)
    exact ⟨_, by rw [split]; rfl, .plain notControl notQuote notSlash chars⟩

theorem quoted_of_readString {r t rest : List Char} (h : readString r = some (t, rest)) :
    ∃ text, '"' :: r = text ++ rest ∧ Quoted (String.ofList t) text := by
  obtain ⟨body, split, chars⟩ := readString_sound h
  refine ⟨_, ?_, .mk chars⟩
  rw [split]
  simp

theorem readNat_sound {s rest : List Char} {n : Nat} (h : readNat s = some (n, rest)) :
    ∃ ds, s = ds ++ rest ∧ Numeral n ds := by
  have digits : ∀ c ∈ s.takeWhile Digits.isDecimal, Digits.isDecimal c = true :=
    fun _ => List.mem_takeWhile_imp
  have split := List.takeWhile_append_dropWhile (p := Digits.isDecimal) (l := s)
  rw [readNat] at h
  split at h
  · cases h
  · cases h
  · rename_i nonempty noZero
    cases h
    exact ⟨_, split.symm, digits, nonempty, fun c r => noZero c r, rfl⟩

theorem readNumber_sound {s rest : List Char} {n : Int} (h : readNumber s = some (n, rest)) :
    ∃ t, s = t ++ rest ∧ Number n t := by
  rw [readNumber.eq_def] at h
  split at h
  · obtain ⟨⟨m, r⟩, read, same⟩ := Option.map_eq_some_iff.mp h
    cases same
    obtain ⟨ds, split, numeral⟩ := readNat_sound read
    exact ⟨'-' :: ds, by rw [split]; rfl, .minus numeral⟩
  · obtain ⟨⟨m, r⟩, read, same⟩ := Option.map_eq_some_iff.mp h
    cases same
    obtain ⟨ds, split, numeral⟩ := readNat_sound read
    exact ⟨ds, split, .plain numeral⟩

/-- What `readValue` and `readFields` accept with the same fuel. -/
def Sound (fuel : Nat) : Prop :=
  (∀ s v rest, readValue fuel s = some (v, rest) → ∃ t, s = t ++ rest ∧ Value v t) ∧
  ∀ s fields rest, readFields fuel s = some (fields, rest) →
    ∃ t, s = t ++ '\x7d' :: rest ∧ Fields fields t

theorem readValue_sound {fuel : Nat} (ih : Sound fuel) {s rest : List Char} {v : Json}
    (h : readValue (fuel + 1) s = some (v, rest)) : ∃ t, s = t ++ rest ∧ Value v t := by
  rw [readValue.eq_def] at h
  dsimp only at h
  split at h
  · obtain ⟨r, read, same⟩ := Option.map_eq_some_iff.mp h
    cases same
    exact ⟨_, word?_sound read, .null⟩
  · obtain ⟨r, read, same⟩ := Option.map_eq_some_iff.mp h
    cases same
    exact ⟨_, word?_sound read, .true⟩
  · obtain ⟨r, read, same⟩ := Option.map_eq_some_iff.mp h
    cases same
    exact ⟨_, word?_sound read, .false⟩
  · obtain ⟨r, read, same⟩ := Option.map_eq_some_iff.mp h
    cases same
    obtain ⟨text, split, quoted⟩ := quoted_of_readString read
    exact ⟨text, split, .string quoted⟩
  · rename_i r
    obtain ⟨ws, blanks, split⟩ := skipBlanks_split r
    split at h
    · rename_i close
      cases h
      rw [close] at split
      exact ⟨_, by rw [split]; simp, .empty blanks⟩
    · obtain ⟨⟨fields, r'⟩, read, same⟩ := Option.map_eq_some_iff.mp h
      cases same
      obtain ⟨text, inner, derived⟩ := ih.2 _ _ _ read
      rw [inner] at split
      exact ⟨_, by rw [split]; simp, .object blanks derived⟩
  · obtain ⟨⟨n, r⟩, read, same⟩ := Option.map_eq_some_iff.mp h
    cases same
    obtain ⟨text, split, number⟩ := readNumber_sound read
    exact ⟨text, split, .number number⟩

theorem readFields_sound {fuel : Nat} (ih : Sound fuel) {s rest : List Char}
    {fields : List (String × Json)} (h : readFields (fuel + 1) s = some (fields, rest)) :
    ∃ t, s = t ++ '\x7d' :: rest ∧ Fields fields t := by
  rw [readFields.eq_def] at h
  dsimp only at h
  split at h
  · rename_i r
    obtain ⟨⟨key, afterKey⟩, readKey, h⟩ := Option.bind_eq_some_iff.mp h
    obtain ⟨kt, splitKey, quoted⟩ := quoted_of_readString readKey
    obtain ⟨ws₁, blanks₁, split₁⟩ := skipBlanks_split afterKey
    dsimp only at h
    split at h
    · rename_i afterColon colon
      obtain ⟨ws₂, blanks₂, split₂⟩ := skipBlanks_split afterColon
      obtain ⟨⟨v, afterValue⟩, readV, h⟩ := Option.bind_eq_some_iff.mp h
      obtain ⟨t, splitValue, value⟩ := ih.1 _ _ _ readV
      obtain ⟨ws₃, blanks₃, split₃⟩ := skipBlanks_split afterValue
      dsimp only at h
      split at h
      · rename_i close
        cases h
        rw [close] at split₃
        refine ⟨_, ?_, .last quoted blanks₁ blanks₂ value blanks₃⟩
        rw [splitKey, split₁, colon, split₂, splitValue, split₃]
        simp
      · rename_i afterComma comma
        obtain ⟨ws₄, blanks₄, split₄⟩ := skipBlanks_split afterComma
        obtain ⟨⟨more, end'⟩, readMore, h⟩ := Option.bind_eq_some_iff.mp h
        obtain ⟨moreText, splitMore, derived⟩ := ih.2 _ _ _ readMore
        split at h
        · cases h
        · rename_i fresh
          cases h
          have notMember : String.ofList key ∉ more.map Prod.fst := by
            intro member
            obtain ⟨f, inMore, same⟩ := List.mem_map.mp member
            exact fresh (List.any_eq_true.mpr ⟨f, inMore, decide_eq_true same⟩)
          refine ⟨_, ?_, .more quoted blanks₁ blanks₂ value blanks₃ blanks₄ derived notMember⟩
          rw [splitKey, split₁, colon, split₂, splitValue, split₃, comma, split₄, splitMore]
          simp
      · cases h
    · cases h
  · cases h

theorem sound_of_fuel (fuel : Nat) : Sound fuel := by
  induction fuel with
  | zero =>
    constructor
    · intro s v rest h
      cases h
    · intro s fields rest h
      cases h
  | succ fuel ih => exact ⟨fun _ _ _ => readValue_sound ih, fun _ _ _ => readFields_sound ih⟩

theorem read?_sound {text : String} {v : Json} (h : read? text = some v) : Document v text := by
  obtain ⟨⟨v', rest⟩, read, h⟩ := Option.bind_eq_some_iff.mp h
  obtain ⟨t, splitValue, value⟩ := (sound_of_fuel _).1 _ _ _ read
  obtain ⟨before, blanks, splitBefore⟩ := skipBlanks_split text.toList
  obtain ⟨after, blanks', splitAfter⟩ := skipBlanks_split rest
  dsimp only at h
  split at h
  · rename_i finished
    cases h
    rw [finished, List.append_nil] at splitAfter
    have whole : text = String.ofList (before ++ t ++ after) := by
      rw [List.append_assoc, ← splitAfter, ← splitValue, ← splitBefore, String.ofList_toList]
    rw [whole]
    exact .mk blanks value blanks'
  · cases h

end SandboxProbe.Json
