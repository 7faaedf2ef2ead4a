import SandboxProbe.CommandLine.Parse
import SandboxProbe.Proofs.Text.Utf8

/-!
# The grammar of command lines

What a command line may be, said without reading it: items one after the other, each a flag with a
value that is attached or stands in an argument of its own, and at most one mark that ends the flags,
at the very end. For each kind of argument that a command line is built from there is one way to write
it: a flag alone, a flag with its value, the mark that ends the flags, a plain value.
-/

namespace SandboxProbe.CommandLine

open Text.Utf8

/-! ## Items -/

inductive Form
  | attached
  | separate
  deriving DecidableEq, Repr

structure Item where
  flag : Flag
  value : Bytes
  form : Form
  deriving DecidableEq, Repr

namespace Item

def flagArgument (f : Flag) : Bytes :=
  dash :: dash :: Text.Utf8.encode f.word

/-- The arguments that an item is written as. -/
def written (item : Item) : List Bytes :=
  match item.form with
  | .attached => [flagArgument item.flag ++ equalsSign :: item.value]
  | .separate => [flagArgument item.flag, item.value]

/-- A value may stand in an argument of its own if it does not look like a flag. -/
def CanStandAlone (value : Bytes) : Prop :=
  value.head? ≠ some dash ∨ value = [dash]

def WellPlaced (item : Item) : Prop :=
  item.form = .separate → CanStandAlone item.value

/-- The setting that an item makes, if its value is valid. -/
def setting (item : Item) : Except Refusal Setting :=
  item.flag.check item.value

end Item

/-- The mark that ends the flags. -/
def endMark : Bytes := [dash, dash]

def writtenItems (items : List Item) : List Bytes :=
  items.flatMap Item.written

/-- `args` are well-placed items that make `settings`, and perhaps the end mark. -/
def Written (args : List Bytes) (settings : List Setting) : Prop :=
  ∃ (items : List Item) (tail : List Bytes), args = writtenItems items ++ tail ∧
    (tail = [] ∨ tail = [endMark]) ∧ (∀ item ∈ items, item.WellPlaced) ∧
    items.map Item.setting = settings.map Except.ok

/-! ## Names and attached values -/

/-- A name with its value behind it, if it has one. -/
def attach (name : Bytes) : Option Bytes → Bytes
  | none => name
  | some value => name ++ equalsSign :: value

theorem attach_cons (b : UInt8) (name : Bytes) (value : Option Bytes) :
    attach (b :: name) value = b :: attach name value := by
  cases value <;> rfl

theorem attach_splitValue (bytes : Bytes) :
    attach (splitValue bytes).1 (splitValue bytes).2 = bytes := by
  induction bytes with
  | nil => rfl
  | cons b r ih =>
    rw [splitValue]
    split
    · rename_i same
      rw [same]
      rfl
    · rw [attach_cons, ih]

theorem splitValue_attach {name : Bytes} (value : Option Bytes) (h : equalsSign ∉ name) :
    splitValue (attach name value) = (name, value) := by
  induction name with
  | nil =>
    cases value with
    | none => rfl
    | some v => exact if_pos rfl
  | cons b name ih =>
    have other : b ≠ equalsSign := fun same => h (same ▸ List.mem_cons_self)
    have absent : equalsSign ∉ name := fun member => h (List.mem_cons_of_mem _ member)
    rw [attach_cons, splitValue, if_neg other, ih absent]

/-! ## Flags -/

namespace Flag

theorem ofWord?_word (f : Flag) : ofWord? (encode f.word) = some f := by
  cases f <;> decide

theorem ofWord?_eq_some_iff {name : Bytes} {f : Flag} :
    ofWord? name = some f ↔ name = encode f.word := by
  constructor
  · intro h
    have found := List.find?_some h
    exact (of_decide_eq_true found).symm
  · rintro rfl
    exact ofWord?_word f

theorem equalsSign_notMem_word (f : Flag) : equalsSign ∉ encode f.word := by
  cases f <;> decide

theorem word_ne_nil (f : Flag) : encode f.word ≠ [] := by
  cases f <;> decide

end Flag

/-! ## Arguments -/

namespace Argument

/-- The one way to write an argument of a command line that is carried out. -/
def WrittenAs : Argument → Bytes → Prop
  | .flag f value, arg => arg = dash :: dash :: attach (encode f.word) value
  | .endOfFlags, arg => arg = endMark
  | .plain value, arg => arg = value ∧ Item.CanStandAlone value
  | _, _ => True

theorem long_word (f : Flag) (value : Option Bytes) :
    long (encode f.word) value = .flag f value := by
  unfold long
  rw [f.ofWord?_word]

theorem writtenAs_long (name : Bytes) (value : Option Bytes) :
    WrittenAs (long name value) (dash :: dash :: attach name value) := by
  unfold long
  split
  · rename_i f found
    rw [Flag.ofWord?_eq_some_iff.mp found]
    rfl
  · dsimp only
    split
    · cases value <;> trivial
    · trivial

theorem writtenAs_short (letters arg : Bytes) : WrittenAs (short letters) arg := by
  unfold short
  split <;> trivial

theorem writtenAs_ofBytes (arg : Bytes) : WrittenAs (ofBytes arg) arg := by
  unfold ofBytes
  split
  · exact ⟨rfl, .inl (by decide)⟩
  · rename_i b
    by_cases hb : b = dash
    · exact ⟨rfl, .inr (by rw [hb])⟩
    · exact ⟨rfl, .inl (by simpa using hb)⟩
  · rename_i b c r
    split
    · rename_i hb
      split
      · rename_i hc
        split
        · rename_i hr
          rw [hb, hc, hr]
          rfl
        · have written := writtenAs_long (splitValue r).1 (splitValue r).2
          rw [attach_splitValue] at written
          rwa [hb, hc]
      · exact writtenAs_short _ _
    · rename_i hb
      exact ⟨rfl, .inl (by simpa using hb)⟩

theorem ofBytes_flag (f : Flag) (value : Option Bytes) :
    ofBytes (dash :: dash :: attach (encode f.word) value) = .flag f value := by
  have some_name : attach (encode f.word) value ≠ [] := by
    cases value with
    | none => exact f.word_ne_nil
    | some v => simp [attach]
  rw [ofBytes, if_pos rfl, if_pos rfl, if_neg some_name,
    splitValue_attach value f.equalsSign_notMem_word]
  exact long_word f value

theorem ofBytes_plain {value : Bytes} (h : Item.CanStandAlone value) :
    ofBytes value = .plain value := by
  unfold ofBytes
  split
  · rfl
  · rfl
  · rename_i b c r
    cases h with
    | inl head => rw [if_neg (by simpa using head)]
    | inr alone => cases alone

end Argument

end SandboxProbe.CommandLine
