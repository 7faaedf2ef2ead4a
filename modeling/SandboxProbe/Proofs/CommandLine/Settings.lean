import SandboxProbe.CommandLine.Parse
import SandboxProbe.Proofs.Text.Utf8

/-!
# Settings and the values they come from

`check_eq_ok_iff`: which values a flag takes, and what setting each makes. `requestOf_eq_some_iff`:
which requests some settings add up to.
-/

namespace SandboxProbe.CommandLine

open Text.Utf8

/-! ## Checks that may refuse -/

section
variable {α β : Type}

theorem bind_eq_ok {x : Except Refusal α} {f : α → Except Refusal β} {b : β} :
    x >>= f = .ok b ↔ ∃ a, x = .ok a ∧ f a = .ok b := by
  constructor
  · intro h
    cases x with
    | error e => cases h
    | ok a => exact ⟨a, rfl, h⟩
  · rintro ⟨a, rfl, h⟩
    exact h

theorem return_eq_ok {x : Except Refusal α} {f : α → β} {b : β} :
    (do return f (← x)) = Except.ok b ↔ ∃ a, x = .ok a ∧ b = f a := by
  rw [bind_eq_ok]
  refine exists_congr fun a => and_congr_right' ?_
  simp only [pure, Except.pure, Except.ok.injEq, eq_comm]

theorem mapError_eq_ok {ε : Type} {x : Except ε α} {f : ε → Refusal} {a : α} :
    x.mapError f = .ok a ↔ x = .ok a := by
  cases x <;> constructor <;> intro h <;> cases h <;> rfl

end

/-- The bytes name a file, whatever they are, as long as there are some. -/
def NamesFile (v path : Bytes) : Prop :=
  v ≠ [] ∧ v = path

/-- The bytes are a text that is read as a mode. -/
def SpellsMode (v : Bytes) (mode : UInt32) : Prop :=
  ∃ given, v = encode given ∧ Text.Octal.read given = .ok mode

section
variable {v : Bytes}

theorem fileValue_eq_ok {f : Flag} {path : Bytes} :
    fileValue f v = .ok path ↔ NamesFile v path := by
  unfold fileValue
  split
  · rename_i empty
    constructor
    · intro h
      cases h
    · intro h
      exact absurd empty h.1
  · rename_i given
    constructor
    · intro h
      cases h
      exact ⟨given, rfl⟩
    · rintro ⟨_, rfl⟩
      rfl

theorem textValue_eq_ok {s : String} : textValue v = .ok s ↔ v = encode s := by
  rw [← decode?_eq_some_iff, textValue]
  cases decode? v with
  | none => simp
  | some t => simp

theorem modeValue_eq_ok {mode : UInt32} : modeValue v = .ok mode ↔ SpellsMode v mode := by
  rw [modeValue, bind_eq_ok]
  refine exists_congr fun given => and_congr textValue_eq_ok ?_
  exact mapError_eq_ok

theorem wordValue_eq_ok {α : Type} {f : Flag} {ofWord? : String → Option α} {word : α → String}
    (ofWord : ∀ s a, ofWord? s = some a ↔ s = word a) (given : ∀ a, encode (word a) ≠ [])
    {a : α} : wordValue f ofWord? v = .ok a ↔ v = encode (word a) := by
  have read : (decode? v).bind ofWord? = some a ↔ v = encode (word a) := by
    rw [Option.bind_eq_some_iff]
    constructor
    · rintro ⟨s, decoded, found⟩
      rw [decode?_eq_some_iff.mp decoded, (ofWord s a).mp found]
    · rintro rfl
      exact ⟨word a, decode?_encode _, (ofWord _ a).mpr rfl⟩
  rw [← read, wordValue]
  split
  · rename_i empty
    constructor
    · intro h
      cases h
    · intro h
      exact absurd ((read.mp h).symm.trans empty) (given a)
  · cases (decode? v).bind ofWord? <;> simp

theorem operation_ofWord? (s : String) (op : Operation) :
    Operation.ofWord? s = some op ↔ s = op.word := by
  constructor
  · intro h
    have found := List.find?_some h
    exact (of_decide_eq_true found).symm
  · rintro rfl
    cases op <;> decide

theorem operationValue_eq_ok {op : Operation} :
    wordValue .op Operation.ofWord? v = .ok op ↔ v = encode op.word :=
  wordValue_eq_ok operation_ofWord? fun op => by cases op <;> decide

theorem payloadKind_ofWord? (s : String) (kind : PayloadKind) :
    PayloadKind.ofWord? s = some kind ↔ s = kind.word := by
  constructor
  · intro h
    have found := List.find?_some h
    exact (of_decide_eq_true found).symm
  · rintro rfl
    cases kind <;> decide

theorem payloadValue_eq_ok {kind : PayloadKind} :
    wordValue .payload PayloadKind.ofWord? v = .ok kind ↔ v = encode kind.word :=
  wordValue_eq_ok payloadKind_ofWord? fun kind => by cases kind <;> decide

end

/-! ## The values that a flag takes -/

namespace Flag

/-- `s` is the setting that the value `v` of the flag makes. -/
def Makes (v : Bytes) (s : Setting) : Flag → Prop
  | .sbpl => ∃ path, NamesFile v path ∧ s = .sbpl path
  | .blob => ∃ path, NamesFile v path ∧ s = .blob path
  | .op => ∃ op : Operation, v = encode op.word ∧ s = .op op
  | .path => ∃ path, v = encode path ∧ s = .path path
  | .syscall => ∃ name, v = encode name ∧ s = .syscall name
  | .payload => ∃ kind : PayloadKind, v = encode kind.word ∧ s = .payload kind
  | .mode => ∃ mode, SpellsMode v mode ∧ s = .mode mode

theorem check_eq_ok_iff {f : Flag} {v : Bytes} {s : Setting} : f.check v = .ok s ↔ f.Makes v s := by
  cases f with
  | sbpl => exact return_eq_ok.trans (exists_congr fun _ => and_congr_left' fileValue_eq_ok)
  | blob => exact return_eq_ok.trans (exists_congr fun _ => and_congr_left' fileValue_eq_ok)
  | op => exact return_eq_ok.trans (exists_congr fun _ => and_congr_left' operationValue_eq_ok)
  | path => exact return_eq_ok.trans (exists_congr fun _ => and_congr_left' textValue_eq_ok)
  | syscall => exact return_eq_ok.trans (exists_congr fun _ => and_congr_left' textValue_eq_ok)
  | payload => exact return_eq_ok.trans (exists_congr fun _ => and_congr_left' payloadValue_eq_ok)
  | mode => exact return_eq_ok.trans (exists_congr fun _ => and_congr_left' modeValue_eq_ok)

/-- Whether a value may stand behind the flag at all. -/
def Takes (v : Bytes) : Flag → Prop
  | .sbpl | .blob => v ≠ []
  | .op => ∃ op : Operation, v = encode op.word
  | .path | .syscall => ∃ s, v = encode s
  | .payload => ∃ kind : PayloadKind, v = encode kind.word
  | .mode => ∃ mode, SpellsMode v mode

theorem takes_iff {f : Flag} {v : Bytes} : f.Takes v ↔ ∃ s, f.check v = .ok s := by
  have file : v ≠ [] ↔ ∃ path, NamesFile v path := by simp [NamesFile]
  have made {α : Type} {Stands : α → Prop} {setting : α → Setting} :
      (∃ a, Stands a) ↔ ∃ s a, Stands a ∧ s = setting a := by
    rw [exists_comm]
    simp
  simp only [check_eq_ok_iff]
  cases f with
  | sbpl => exact file.trans made
  | blob => exact file.trans made
  | op => exact made
  | path => exact made
  | syscall => exact made
  | payload => exact made
  | mode => exact made

end Flag

/-! ## Requests -/

theorem requestOf_eq_some_iff {settings : List Setting} {r : Request} :
    requestOf settings = some r ↔
      profileOf settings = some r.profile ∧ Setting.last Setting.op? settings = some r.op ∧
        Setting.last Setting.path? settings = some r.path ∧
        r.syscall = (Setting.last Setting.syscall? settings).getD r.op.defaultCall.name ∧
        r.payload = Setting.last Setting.payload? settings ∧
        r.mode = (Setting.last Setting.mode? settings).getD defaultMode := by
  unfold requestOf
  simp only [Option.bind_eq_bind, Option.bind_eq_some_iff, Option.pure_def, Option.some.injEq]
  constructor
  · rintro ⟨profile, hp, op, ho, path, ht, rfl⟩
    exact ⟨hp, ho, ht, rfl, rfl, rfl⟩
  · rintro ⟨hp, ho, ht, hs, hk, hm⟩
    refine ⟨r.profile, hp, r.op, ho, r.path, ht, ?_⟩
    rw [← hs, ← hk, ← hm]

end SandboxProbe.CommandLine
