import Mathlib.Data.List.Forall2
import SandboxProbe.Proofs.CommandLine.Scan

/-!
# Which command lines are accepted, and what they mean

`parse_accepts`: a command line is accepted exactly if it is made of well-placed items with values that
their flags take, and names an operation, a path and a profile. What it means depends on nothing but the
last value of each flag.
-/

namespace SandboxProbe.CommandLine

open Text.Utf8

/-! ## What a command line says -/

/-- The values that items give to a flag, in their order. -/
def valuesOf (f : Flag) (items : List Item) : List Bytes :=
  (items.filter (·.flag = f)).map Item.value

/-- The value of each flag that counts. -/
def lastValue (items : List Item) (f : Flag) : Option Bytes :=
  (valuesOf f items).getLast?

def Occurs (f : Flag) (items : List Item) : Prop :=
  ∃ item ∈ items, item.flag = f

/-- Behind the name of the program `argv` holds the items, and perhaps the end mark. -/
def Line (argv : List Bytes) (items : List Item) : Prop :=
  ∃ tail, argv.tail = writtenItems items ++ tail ∧ (tail = [] ∨ tail = [endMark]) ∧
    ∀ item ∈ items, item.WellPlaced ∧ item.flag.Takes item.value

/-- The request that is meant by the values that count. -/
structure Meaning (last : Flag → Option Bytes) (r : Request) : Prop where
  profile : (∃ path, last .sbpl = some path ∧ r.profile = .text path) ∨
    last .sbpl = none ∧ ∃ path, last .blob = some path ∧ r.profile = .blob path
  op : last .op = some (encode r.op.word)
  path : last .path = some (encode r.path)
  syscall : last .syscall = some (encode r.syscall) ∨
    last .syscall = none ∧ r.syscall = r.op.defaultCall.name
  payload : last .payload = r.payload.map (encode ·.word)
  mode : (∃ v, last .mode = some v ∧ SpellsMode v r.mode) ∨ last .mode = none ∧ r.mode = 0o640

/-! ## Last values and last settings -/

section
variable {α : Type}

theorem rel_getLast? {Stands : Bytes → α → Prop} {values : List Bytes} {as : List α}
    (h : List.Forall₂ Stands values as) : Option.Rel Stands values.getLast? as.getLast? := by
  induction h with
  | nil => exact .none
  | @cons v a values as stands rest ih =>
    rw [List.getLast?_cons, List.getLast?_cons]
    cases ih' : values.getLast? <;> cases ih'' : as.getLast? <;> rw [ih', ih''] at ih <;> cases ih
    · exact .some stands
    · rename_i h
      exact .some h

/-- The flag that a setting is made by. -/
def flagOf : Setting → Flag
  | .sbpl _ => .sbpl
  | .blob _ => .blob
  | .op _ => .op
  | .path _ => .path
  | .syscall _ => .syscall
  | .payload _ => .payload
  | .mode _ => .mode

theorem flagOf_makes {f : Flag} {v : Bytes} {s : Setting} (makes : f.Makes v s) : flagOf s = f := by
  cases f <;> obtain ⟨a, _, rfl⟩ := makes <;> rfl

/-- `kind` picks the settings of the flag `f`; the value of each stands for what the setting holds. -/
structure Picks (f : Flag) (kind : Setting → Option α) (Stands : Bytes → α → Prop) : Prop where
  own : ∀ v s, f.Makes v s → ∃ a, kind s = some a ∧ Stands v a
  other : ∀ s, flagOf s ≠ f → kind s = none
  unique : ∀ v a b, Stands v a → Stands v b → a = b

variable {f : Flag} {kind : Setting → Option α} {Stands : Bytes → α → Prop} {items : List Item}
  {settings : List Setting}

theorem getD_eq_iff {o : Option α} {d a : α} : a = o.getD d ↔ o = some a ∨ o = none ∧ a = d := by
  cases o <;> simp [eq_comm]

theorem Picks.values (picks : Picks f kind Stands)
    (valid : items.map Item.setting = settings.map Except.ok) :
    List.Forall₂ Stands (valuesOf f items) (settings.filterMap kind) := by
  induction items generalizing settings with
  | nil =>
    rw [List.map_eq_nil_iff.mp valid.symm]
    exact .nil
  | cons item items ih =>
    cases settings with
    | nil => cases valid
    | cons s settings =>
      obtain ⟨first, others⟩ := List.cons_eq_cons.mp valid
      have makes := Flag.check_eq_ok_iff.mp first
      by_cases same : item.flag = f
      · obtain ⟨a, holds, stands⟩ := picks.own _ _ (same ▸ makes)
        rw [List.filterMap_cons_some holds, valuesOf, List.filter_cons_of_pos (by simpa using same)]
        exact .cons stands (ih others)
      · have other : flagOf s ≠ f := flagOf_makes makes ▸ same
        rw [List.filterMap_cons_none (picks.other s other), valuesOf,
          List.filter_cons_of_neg (by simpa using same)]
        exact ih others

theorem Picks.rel (picks : Picks f kind Stands)
    (valid : items.map Item.setting = settings.map Except.ok) :
    Option.Rel Stands (lastValue items f) (Setting.last kind settings) :=
  rel_getLast? (picks.values valid)

theorem Picks.last_eq_some (picks : Picks f kind Stands)
    (valid : items.map Item.setting = settings.map Except.ok) {a : α} :
    Setting.last kind settings = some a ↔ ∃ v, lastValue items f = some v ∧ Stands v a := by
  have rel := picks.rel valid
  generalize lastValue items f = value at rel ⊢
  generalize Setting.last kind settings = setting at rel ⊢
  cases rel with
  | none => simp
  | @some v b stands =>
    constructor
    · intro h
      cases h
      exact ⟨v, rfl, stands⟩
    · rintro ⟨_, same, stands'⟩
      cases same
      rw [picks.unique v a b stands' stands]

theorem Picks.last_of_value (picks : Picks f kind Stands)
    (valid : items.map Item.setting = settings.map Except.ok) {v : Bytes}
    (h : lastValue items f = some v) : ∃ a, Setting.last kind settings = some a ∧ Stands v a := by
  have rel := picks.rel valid
  rw [h] at rel
  generalize Setting.last kind settings = setting at rel ⊢
  cases rel with
  | some stands => exact ⟨_, rfl, stands⟩

theorem Picks.last_eq_none (picks : Picks f kind Stands)
    (valid : items.map Item.setting = settings.map Except.ok) :
    Setting.last kind settings = none ↔ lastValue items f = none := by
  have rel := picks.rel valid
  generalize lastValue items f = value at rel ⊢
  generalize Setting.last kind settings = setting at rel ⊢
  cases rel <;> simp

theorem lastValue_eq_none_iff : lastValue items f = none ↔ ¬Occurs f items := by
  simp [lastValue, valuesOf, Occurs]

theorem Picks.exists_last_iff (picks : Picks f kind Stands)
    (valid : items.map Item.setting = settings.map Except.ok) :
    (∃ a, Setting.last kind settings = some a) ↔ Occurs f items := by
  rw [← Option.ne_none_iff_exists', Ne, picks.last_eq_none valid, lastValue_eq_none_iff, not_not]

end

theorem namesFile_unique (v p q : Bytes) (hp : NamesFile v p) (hq : NamesFile v q) : p = q :=
  hp.2.symm.trans hq.2

theorem encode_unique (v : Bytes) (s t : String) (hs : v = encode s) (ht : v = encode t) : s = t :=
  encode_injective (hs.symm.trans ht)

theorem spellsMode_unique (v : Bytes) (m n : UInt32) (hm : SpellsMode v m) (hn : SpellsMode v n) :
    m = n := by
  obtain ⟨s, hs, readS⟩ := hm
  obtain ⟨t, ht, readT⟩ := hn
  rw [encode_unique v s t hs ht, readT] at readS
  cases readS
  rfl

theorem picks_sbpl : Picks .sbpl Setting.sbpl? NamesFile where
  own := by rintro v s ⟨path, names, rfl⟩; exact ⟨path, rfl, names⟩
  other := by intro s other; cases s <;> first | rfl | exact absurd rfl other
  unique := namesFile_unique

theorem picks_blob : Picks .blob Setting.blob? NamesFile where
  own := by rintro v s ⟨path, names, rfl⟩; exact ⟨path, rfl, names⟩
  other := by intro s other; cases s <;> first | rfl | exact absurd rfl other
  unique := namesFile_unique

theorem picks_op : Picks .op Setting.op? (fun v op => v = encode op.word) where
  own := by rintro v s ⟨op, spelled, rfl⟩; exact ⟨op, rfl, spelled⟩
  other := by intro s other; cases s <;> first | rfl | exact absurd rfl other
  unique v a b ha hb := by
    have found := (operation_ofWord? _ b).mpr (encode_unique v _ _ ha hb)
    rw [(operation_ofWord? _ a).mpr rfl] at found
    exact Option.some.inj found

theorem picks_path : Picks .path Setting.path? (fun v path => v = encode path) where
  own := by rintro v s ⟨path, spelled, rfl⟩; exact ⟨path, rfl, spelled⟩
  other := by intro s other; cases s <;> first | rfl | exact absurd rfl other
  unique := encode_unique

theorem picks_syscall : Picks .syscall Setting.syscall? (fun v name => v = encode name) where
  own := by rintro v s ⟨name, spelled, rfl⟩; exact ⟨name, rfl, spelled⟩
  other := by intro s other; cases s <;> first | rfl | exact absurd rfl other
  unique := encode_unique

theorem picks_payload :
    Picks .payload Setting.payload? (fun v kind => v = encode (PayloadKind.word kind)) where
  own := by rintro v s ⟨kind, spelled, rfl⟩; exact ⟨kind, rfl, spelled⟩
  other := by intro s other; cases s <;> first | rfl | exact absurd rfl other
  unique v a b ha hb := by
    have found := (payloadKind_ofWord? _ b).mpr (encode_unique v _ _ ha hb)
    rw [(payloadKind_ofWord? _ a).mpr rfl] at found
    exact Option.some.inj found

theorem picks_mode : Picks .mode Setting.mode? SpellsMode where
  own := by rintro v s ⟨mode, spells, rfl⟩; exact ⟨mode, rfl, spells⟩
  other := by intro s other; cases s <;> first | rfl | exact absurd rfl other
  unique := spellsMode_unique

/-! ## The request that is meant -/

section
variable {items : List Item} {settings : List Setting}
  (valid : items.map Item.setting = settings.map Except.ok)
include valid

theorem last_file_eq_some {f : Flag} {kind : Setting → Option Bytes} (picks : Picks f kind NamesFile)
    {path : Bytes} : Setting.last kind settings = some path ↔ lastValue items f = some path := by
  constructor
  · intro h
    obtain ⟨v, value, _, rfl⟩ := (picks.last_eq_some valid).mp h
    exact value
  · intro h
    obtain ⟨p, last, _, rfl⟩ := picks.last_of_value valid h
    exact last

theorem last_spelled_eq_some {α : Type} {f : Flag} {kind : Setting → Option α} {spell : α → Bytes}
    (picks : Picks f kind fun v a => v = spell a) {a : α} :
    Setting.last kind settings = some a ↔ lastValue items f = some (spell a) := by
  rw [picks.last_eq_some valid]
  simp

theorem eq_last_payload_iff {payload : Option PayloadKind} :
    payload = Setting.last Setting.payload? settings ↔
      lastValue items .payload = payload.map (encode ·.word) := by
  rw [eq_comm]
  cases payload with
  | none => exact picks_payload.last_eq_none valid
  | some kind => exact last_spelled_eq_some valid picks_payload

theorem profileOf_eq_some_iff {p : Profile} :
    profileOf settings = some p ↔
      (∃ path, lastValue items .sbpl = some path ∧ p = .text path) ∨
        lastValue items .sbpl = none ∧ ∃ path, lastValue items .blob = some path ∧ p = .blob path := by
  simp only [← last_file_eq_some valid picks_sbpl, ← last_file_eq_some valid picks_blob,
    ← picks_sbpl.last_eq_none valid]
  unfold profileOf
  cases Setting.last Setting.sbpl? settings with
  | some path => simp [eq_comm]
  | none => cases Setting.last Setting.blob? settings <;> simp [eq_comm]

theorem requestOf_iff_meaning {r : Request} :
    requestOf settings = some r ↔ Meaning (lastValue items) r := by
  rw [requestOf_eq_some_iff, profileOf_eq_some_iff valid, last_spelled_eq_some valid picks_op,
    last_spelled_eq_some valid picks_path, getD_eq_iff, last_spelled_eq_some valid picks_syscall,
    picks_syscall.last_eq_none valid, eq_last_payload_iff valid, getD_eq_iff,
    picks_mode.last_eq_some valid, picks_mode.last_eq_none valid]
  constructor
  · rintro ⟨profile, op, path, syscall, payload, mode⟩
    exact ⟨profile, op, path, syscall, payload, mode⟩
  · rintro ⟨profile, op, path, syscall, payload, mode⟩
    exact ⟨profile, op, path, syscall, payload, mode⟩

theorem exists_profileOf_iff :
    (∃ p, profileOf settings = some p) ↔ Occurs .sbpl items ∨ Occurs .blob items := by
  rw [← picks_sbpl.exists_last_iff valid, ← picks_blob.exists_last_iff valid]
  unfold profileOf
  cases Setting.last Setting.sbpl? settings <;> simp

/-- Nothing but an operation, a path and a profile can be missing. -/
theorem exists_requestOf_iff :
    (∃ r, requestOf settings = some r) ↔
      Occurs .op items ∧ Occurs .path items ∧ (Occurs .sbpl items ∨ Occurs .blob items) := by
  rw [← picks_op.exists_last_iff valid, ← picks_path.exists_last_iff valid,
    ← exists_profileOf_iff valid]
  simp only [requestOf, Option.bind_eq_bind, Option.bind_eq_some_iff, Option.pure_def,
    Option.some.injEq]
  constructor
  · rintro ⟨r, p, profile, op, lastOp, path, lastPath, _⟩
    exact ⟨⟨op, lastOp⟩, ⟨path, lastPath⟩, p, profile⟩
  · rintro ⟨⟨op, lastOp⟩, ⟨path, lastPath⟩, p, profile⟩
    exact ⟨_, p, profile, op, lastOp, path, lastPath, rfl⟩

end

/-! ## The items of a command line -/

theorem settings_of_takes {items : List Item} (h : ∀ item ∈ items, item.flag.Takes item.value) :
    ∃ settings : List Setting, items.map Item.setting = settings.map Except.ok := by
  induction items with
  | nil => exact ⟨[], rfl⟩
  | cons item items ih =>
    obtain ⟨settings, others⟩ := ih fun i member => h i (List.mem_cons_of_mem _ member)
    obtain ⟨s, first⟩ := Flag.takes_iff.mp (h item List.mem_cons_self)
    have setting : item.setting = .ok s := first
    exact ⟨s :: settings, by rw [List.map_cons, List.map_cons, setting, others]⟩

theorem takes_of_settings {items : List Item} {settings : List Setting}
    (valid : items.map Item.setting = settings.map Except.ok) :
    ∀ item ∈ items, item.flag.Takes item.value := by
  intro item member
  have setting : item.setting ∈ settings.map Except.ok :=
    valid ▸ List.mem_map_of_mem member
  obtain ⟨s, _, same⟩ := List.mem_map.mp setting
  exact Flag.takes_iff.mpr ⟨s, same.symm⟩

/-- The settings of a line are those of its items, whichever items it is taken for. -/
theorem scan_line {argv : List Bytes} {items : List Item} (line : Line argv items) :
    ∃ settings, items.map Item.setting = settings.map Except.ok ∧
      scan .nothing argv.tail = .ok settings := by
  obtain ⟨tail, written, closed, sound⟩ := line
  obtain ⟨settings, valid⟩ := settings_of_takes fun item member => (sound item member).2
  refine ⟨settings, valid, scan_eq_ok_iff.mpr ⟨items, tail, written, closed, ?_, valid⟩⟩
  exact fun item member => (sound item member).1

theorem line_of_scan {argv : List Bytes} {settings : List Setting}
    (h : scan .nothing argv.tail = .ok settings) :
    ∃ items, Line argv items ∧ items.map Item.setting = settings.map Except.ok := by
  obtain ⟨items, tail, written, closed, placed, valid⟩ := scan_eq_ok_iff.mp h
  have takes := takes_of_settings valid
  exact ⟨items, ⟨tail, written, closed, fun i member => ⟨placed i member, takes i member⟩⟩, valid⟩

theorem parse_eq_ok_iff {argv : List Bytes} {r : Request} :
    parse argv = .ok r ↔
      ∃ settings, scan .nothing argv.tail = .ok settings ∧ requestOf settings = some r := by
  refine bind_eq_ok.trans (exists_congr fun settings => and_congr_right' ?_)
  cases requestOf settings <;> simp [pure, Except.pure]

theorem parse_line {argv : List Bytes} {items : List Item} (line : Line argv items) (r : Request) :
    parse argv = .ok r ↔ Meaning (lastValue items) r := by
  obtain ⟨settings, valid, scanned⟩ := scan_line line
  rw [← requestOf_iff_meaning valid, parse_eq_ok_iff, scanned]
  simp

/-- A line that is not accepted lacks a flag; there is no other fault in it. -/
theorem parse_line_error {argv : List Bytes} {items : List Item} (line : Line argv items)
    {e : Refusal} (h : parse argv = .error e) : e = .missingFlags := by
  obtain ⟨settings, _, scanned⟩ := scan_line line
  rw [parse, scanned] at h
  cases made : requestOf settings <;> simp [bind, Except.bind, made, pure, Except.pure] at h
  exact h.symm

/-- The command lines that are accepted, and what they mean: the last value of each flag decides, so that
neither the order of the flags nor a value that is given anew later makes a difference. -/
theorem parse_accepts (argv : List Bytes) :
    ((∃ r, parse argv = .ok r) ↔
      ∃ items, Line argv items ∧ Occurs .op items ∧ Occurs .path items ∧
        (Occurs .sbpl items ∨ Occurs .blob items)) ∧
    (∀ items, Line argv items → ∀ r, parse argv = .ok r ↔ Meaning (lastValue items) r) ∧
    ∀ argv' items items', Line argv items → Line argv' items' →
      (∀ f, lastValue items f = lastValue items' f) → parse argv = parse argv' := by
  refine ⟨⟨?_, ?_⟩, fun items line => parse_line line, ?_⟩
  · rintro ⟨r, accepted⟩
    obtain ⟨settings, scanned, made⟩ := parse_eq_ok_iff.mp accepted
    obtain ⟨items, line, valid⟩ := line_of_scan scanned
    exact ⟨items, line, (exists_requestOf_iff valid).mp ⟨r, made⟩⟩
  · rintro ⟨items, line, given⟩
    obtain ⟨settings, valid, scanned⟩ := scan_line line
    obtain ⟨r, made⟩ := (exists_requestOf_iff valid).mpr given
    exact ⟨r, parse_eq_ok_iff.mpr ⟨settings, scanned, made⟩⟩
  · intro argv' items items' line line' same
    have meaning : lastValue items = lastValue items' := funext same
    have alike : ∀ r, parse argv = .ok r ↔ parse argv' = .ok r := by
      intro r
      rw [parse_line line, parse_line line', meaning]
    cases answer : parse argv with
    | ok r => exact ((alike r).mp answer).symm
    | error e =>
      cases answer' : parse argv' with
      | ok r =>
        rw [(alike r).mpr answer'] at answer
        cases answer
      | error e' => rw [parse_line_error line answer, parse_line_error line' answer']

/-- The later operation counts, with its own default call, and a lone dash is a value. -/
example :
    parse (["p", "--blob=x", "--op", "file-write*", "--path", "-", "--op=file-read-metadata",
        "--"].map encode) =
      .ok ⟨.blob (encode "x"), .readMetadata, "-", "lstat", none, 0o640⟩ := by
  decide

end SandboxProbe.CommandLine
