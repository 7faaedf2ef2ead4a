import SandboxProbe.Proofs.CommandLine.Acceptance

/-!
# Help or refusal

A command line is read up to the first argument that is out of place. `parse_helps_or_refuses`: help is
given exactly where this argument asks for it, behind complete items and nothing else; whatever comes
after it is not read. Everything else that is not accepted is refused.
-/

namespace SandboxProbe.CommandLine

open Text.Utf8

def AsksForHelp (arg : Bytes) : Prop :=
  arg = encode "--help" ∨ encode "-h" <+: arg

/-- Every flag takes its value, and a value that stands alone may. -/
def Sound (items : List Item) : Prop :=
  ∀ item ∈ items, item.WellPlaced ∧ item.flag.Takes item.value

/-- Behind sound items the first argument asks for help. -/
def HelpFirst (args : List Bytes) : Prop :=
  ∃ items arg rest, args = writtenItems items ++ arg :: rest ∧ Sound items ∧ AsksForHelp arg

def Refused (argv : List Bytes) : Prop :=
  ∃ e, e ≠ Refusal.help ∧ parse argv = .error e

/-- Not a value, not one of the flags with or without a value, not the end mark, and no call for help. -/
def Foreign (arg : Bytes) : Prop :=
  ¬Item.CanStandAlone arg ∧ (∀ f value, arg ≠ attach (Item.flagArgument f) value) ∧ arg ≠ endMark ∧
    ¬AsksForHelp arg

/-- `args` begin with a fault: an unknown flag, an item with a value that its flag does not take, a flag
without its value, or an argument behind the end mark. -/
inductive Fault : List Bytes → Prop
  | unknown {arg : Bytes} {rest : List Bytes} : Foreign arg → Fault (arg :: rest)
  | invalid {item : Item} {rest : List Bytes} : item.WellPlaced → ¬item.flag.Takes item.value →
      Fault (item.written ++ rest)
  | missing {f : Flag} {arg : Bytes} {rest : List Bytes} : ¬Item.CanStandAlone arg →
      Fault (Item.flagArgument f :: arg :: rest)
  | behindEnd {arg : Bytes} {rest : List Bytes} : Fault (endMark :: arg :: rest)

/-! ## What one argument is -/

namespace Argument

theorem ofBytes_attach (f : Flag) (value : Option Bytes) :
    ofBytes (attach (Item.flagArgument f) value) = .flag f value := by
  rw [Item.flagArgument, attach_cons, attach_cons]
  exact ofBytes_flag f value

theorem long_eq_help {name : Bytes} {value : Option Bytes} (h : long name value = .help) :
    name = encode "help" ∧ value = none := by
  unfold long at h
  split at h
  · cases h
  · dsimp only at h
    split at h
    · rename_i hname
      cases value with
      | none => exact ⟨hname, rfl⟩
      | some v => cases h
    · cases h

theorem short_eq_help {letters : Bytes} (h : short letters = .help) :
    ∃ more, items letters = some 'h' :: more := by
  unfold short at h
  split at h
  · rename_i more hitems
    exact ⟨more, hitems⟩
  · cases h
  · cases h

theorem asksForHelp_iff {arg : Bytes} : AsksForHelp arg ↔ ofBytes arg = .help := by
  constructor
  · rintro (rfl | ⟨rest, rfl⟩)
    · decide
    · have hitems : items (0x68 :: rest) = some 'h' :: itemsFrom none rest := rfl
      change short (0x68 :: rest) = .help
      simp only [short, hitems]
  · intro h
    unfold ofBytes at h
    split at h
    · cases h
    · cases h
    · rename_i b c r
      split at h
      · rename_i hb
        split at h
        · rename_i hc
          split at h
          · cases h
          · obtain ⟨hname, hvalue⟩ := long_eq_help h
            have hr := attach_splitValue r
            rw [hname, hvalue] at hr
            left
            rw [hb, hc, ← hr]
            rfl
        · obtain ⟨rest, hrest⟩ := items_eq_cons_iff.mp (short_eq_help h)
          right
          rw [hb, ← hrest]
          exact ⟨rest, rfl⟩
      · cases h

theorem canStandAlone_iff {arg : Bytes} : Item.CanStandAlone arg ↔ ofBytes arg = .plain arg := by
  constructor
  · exact ofBytes_plain
  · intro h
    have spelled := writtenAs_ofBytes arg
    rw [h] at spelled
    exact spelled.2

theorem eq_attach_iff {arg : Bytes} {f : Flag} {value : Option Bytes} :
    arg = attach (Item.flagArgument f) value ↔ ofBytes arg = .flag f value := by
  constructor
  · intro h
    rw [h, ofBytes_attach]
  · intro h
    have spelled := writtenAs_ofBytes arg
    rw [h] at spelled
    rw [Item.flagArgument, attach_cons, attach_cons]
    exact spelled

theorem eq_endMark_iff {arg : Bytes} : arg = endMark ↔ ofBytes arg = .endOfFlags := by
  constructor
  · intro h
    rw [h]
    rfl
  · intro h
    have spelled := writtenAs_ofBytes arg
    rwa [h] at spelled

theorem ofBytes_valuedHelp (value : Bytes) :
    ofBytes (encode "--help=" ++ value) = .valuedHelp value := by
  have hsplit := splitValue_attach (some value) (show equalsSign ∉ encode "help" by decide)
  change long (splitValue (attach (encode "help") (some value))).1
    (splitValue (attach (encode "help") (some value))).2 = _
  rw [hsplit]
  rfl

end Argument

open Argument (ofBytes_attach asksForHelp_iff canStandAlone_iff eq_attach_iff eq_endMark_iff)

theorem foreign_valuedHelp (value : Bytes) : Foreign (encode "--help=" ++ value) := by
  simp [Foreign, canStandAlone_iff, eq_attach_iff, eq_endMark_iff, asksForHelp_iff,
    Argument.ofBytes_valuedHelp]

theorem not_canStandAlone_attach (f : Flag) (value : Option Bytes) :
    ¬Item.CanStandAlone (attach (Item.flagArgument f) value) := by
  simp [canStandAlone_iff, ofBytes_attach]

theorem not_asksForHelp_attach (f : Flag) (value : Option Bytes) :
    ¬AsksForHelp (attach (Item.flagArgument f) value) := by
  simp [asksForHelp_iff, ofBytes_attach]

theorem attach_ne_endMark (f : Flag) (value : Option Bytes) :
    attach (Item.flagArgument f) value ≠ endMark := by
  simp [eq_endMark_iff, ofBytes_attach]

theorem not_canStandAlone_endMark : ¬Item.CanStandAlone endMark := by
  simp [canStandAlone_iff, eq_endMark_iff.mp rfl]

theorem not_asksForHelp_endMark : ¬AsksForHelp endMark := by
  simp [asksForHelp_iff, eq_endMark_iff.mp rfl]

theorem attach_inj (f g : Flag) (value other : Option Bytes)
    (h : attach (Item.flagArgument f) value = attach (Item.flagArgument g) other) :
    f = g ∧ value = other := by
  simpa [eq_attach_iff, ofBytes_attach] using h

/-! ## Checks never ask for help -/

section
variable {α β : Type}

theorem bind_eq_help {x : Except Refusal α} {f : α → Except Refusal β} :
    x >>= f = .error .help ↔ x = .error .help ∨ ∃ a, x = .ok a ∧ f a = .error .help := by
  cases x <;> simp [bind, Except.bind]

theorem return_eq_help {x : Except Refusal α} {f : α → β} :
    (do return f (← x)) = Except.error Refusal.help ↔ x = .error .help := by
  rw [bind_eq_help]
  simp [pure, Except.pure]

end

theorem fileValue_ne_help (f : Flag) (v : Bytes) : fileValue f v ≠ .error .help := by
  unfold fileValue
  split <;> simp

theorem textValue_ne_help (v : Bytes) : textValue v ≠ .error .help := by
  unfold textValue
  split <;> simp

theorem wordValue_ne_help {α : Type} (f : Flag) (ofWord? : String → Option α) (v : Bytes) :
    wordValue f ofWord? v ≠ .error .help := by
  unfold wordValue
  split
  · simp
  · split <;> simp

theorem modeValue_ne_help (v : Bytes) : modeValue v ≠ .error .help := by
  unfold modeValue
  rw [Ne, bind_eq_help]
  rintro (h | ⟨s, -, h⟩)
  · exact textValue_ne_help v h
  · cases read : Text.Octal.read s <;> simp [read, Except.mapError] at h

theorem Flag.check_ne_help (f : Flag) (v : Bytes) : f.check v ≠ .error .help := by
  intro h
  cases f with
  | sbpl => exact fileValue_ne_help _ v (return_eq_help.mp h)
  | blob => exact fileValue_ne_help _ v (return_eq_help.mp h)
  | op => exact wordValue_ne_help _ _ v (return_eq_help.mp h)
  | path => exact textValue_ne_help v (return_eq_help.mp h)
  | syscall => exact textValue_ne_help v (return_eq_help.mp h)
  | payload => exact wordValue_ne_help _ _ v (return_eq_help.mp h)
  | mode => exact modeValue_ne_help v (return_eq_help.mp h)

theorem Waiting.finish_ne_help (w : Waiting) : w.finish ≠ .error .help := by
  intro h
  cases w with
  | nothing => cases h
  | value f => cases h
  | check f v =>
    rw [finish] at h
    cases valid : f.check v with
    | ok s => rw [valid] at h; cases h
    | error e =>
      rw [valid] at h
      cases h
      exact f.check_ne_help v valid

/-! ## One argument of a scan -/

section
variable {w : Waiting} {arg : Bytes} {rest : List Bytes}

/-- What waits is settled first, and its settling never asks for help. -/
theorem finish_bind_eq_help {f : List Setting → Except Refusal (List Setting)} :
    w.finish >>= f = .error .help ↔ ∃ settled, w.finish = .ok settled ∧ f settled = .error .help := by
  rw [bind_eq_help, or_iff_right w.finish_ne_help]

theorem scan_nil_ne_help : scan w [] ≠ .error .help := by
  rw [scan_nil]
  exact w.finish_ne_help

theorem scan_help_iff (kind : Argument.ofBytes arg = .help) :
    scan w (arg :: rest) = .error .help ↔ ∃ settled, w.finish = .ok settled := by
  rw [scan_cons_help kind, finish_bind_eq_help]
  simp

theorem scan_flag_help_iff {f : Flag} (kind : Argument.ofBytes arg = .flag f none) :
    scan w (arg :: rest) = .error .help ↔
      (∃ settled, w.finish = .ok settled) ∧ scan (.value f) rest = .error .help := by
  rw [scan_cons_flag kind, finish_bind_eq_help]
  simp only [return_eq_help]
  exact exists_and_right

theorem scan_attached_help_iff {f : Flag} {v : Bytes}
    (kind : Argument.ofBytes arg = .flag f (some v)) :
    scan w (arg :: rest) = .error .help ↔
      (∃ settled, w.finish = .ok settled) ∧ (∃ s, f.check v = .ok s) ∧
        scan .nothing rest = .error .help := by
  rw [scan_cons_attached kind, finish_bind_eq_help]
  simp only [bind_eq_help (x := f.check v), or_iff_right (f.check_ne_help v), return_eq_help]
  simp only [exists_and_right]

theorem scan_plain_help_iff {v : Bytes} (kind : Argument.ofBytes arg = .plain v) :
    scan w (arg :: rest) = .error .help ↔
      ∃ f, w = .value f ∧ scan (.check f v) rest = .error .help :=
  scan_cons_plain kind (by simp)

theorem scan_endOfFlags_ne_help (kind : Argument.ofBytes arg = .endOfFlags) :
    scan w (arg :: rest) ≠ .error .help := by
  rw [scan_cons_endOfFlags kind]
  by_cases last : rest = []
  · rw [if_pos last]
    exact w.finish_ne_help
  · simp [last]

theorem scan_unknown_ne_help {shown : String} (kind : Argument.ofBytes arg = .unknown shown) :
    scan w (arg :: rest) ≠ .error .help := by
  simp [scan_cons_unknown kind]

theorem scan_valuedHelp_ne_help {v : Bytes} (kind : Argument.ofBytes arg = .valuedHelp v) :
    scan w (arg :: rest) ≠ .error .help := by
  simp [scan_cons_valuedHelp kind]

end

/-! ## Help is given behind sound items -/

theorem helpFirst_item {item : Item} {args : List Bytes} (placed : item.WellPlaced)
    (takes : item.flag.Takes item.value) (h : HelpFirst args) : HelpFirst (item.written ++ args) := by
  obtain ⟨items, arg, rest, written, sound, asks⟩ := h
  refine ⟨item :: items, arg, rest, ?_, ?_, asks⟩
  · rw [written, writtenItems, writtenItems, List.flatMap_cons, List.append_assoc]
  · intro i member
    cases member with
    | head => exact ⟨placed, takes⟩
    | tail _ member => exact sound i member

theorem Waiting.helpFirst_finish {w : Waiting} {settled : List Setting} {args : List Bytes}
    (placed : w.Placed) (finished : w.finish = .ok settled) (h : HelpFirst args) :
    HelpFirst (w.pending ++ args) := by
  cases w with
  | nothing => exact h
  | value f => cases finished
  | check f v =>
    obtain ⟨s, valid, -⟩ := Waiting.finish_check_iff.mp finished
    exact helpFirst_item (Item.wellPlaced_separate placed) (Flag.takes_iff.mpr ⟨s, valid⟩) h

theorem helpFirst_of_scan {w : Waiting} {args : List Bytes} (placed : w.Placed)
    (h : scan w args = .error .help) : HelpFirst (w.pending ++ args) := by
  -- what waits goes with the arguments to come, as where the scan comes to settings
  induction args generalizing w with
  | nil => exact absurd h scan_nil_ne_help
  | cons arg rest ih =>
    have spelled := Argument.writtenAs_ofBytes arg
    cases kind : Argument.ofBytes arg with
    | unknown shown => exact absurd h (scan_unknown_ne_help kind)
    | valuedHelp v => exact absurd h (scan_valuedHelp_ne_help kind)
    | endOfFlags => exact absurd h (scan_endOfFlags_ne_help kind)
    | help =>
      obtain ⟨settled, finished⟩ := (scan_help_iff kind).mp h
      refine Waiting.helpFirst_finish placed finished ?_
      exact ⟨[], arg, rest, rfl, by simp [Sound], asksForHelp_iff.mpr kind⟩
    | plain v =>
      rw [kind] at spelled
      obtain ⟨f, rfl, later⟩ := (scan_plain_help_iff kind).mp h
      rw [spelled.1]
      exact ih (w := .check f v) spelled.2 later
    | flag f value =>
      rw [kind] at spelled
      cases value with
      | none =>
        obtain ⟨⟨settled, finished⟩, later⟩ := (scan_flag_help_iff kind).mp h
        refine Waiting.helpFirst_finish placed finished ?_
        rw [spelled]
        exact ih (w := .value f) trivial later
      | some v =>
        obtain ⟨⟨settled, finished⟩, valid, later⟩ := (scan_attached_help_iff kind).mp h
        refine Waiting.helpFirst_finish placed finished ?_
        rw [spelled]
        exact helpFirst_item (Item.wellPlaced_attached f v) (Flag.takes_iff.mpr valid)
          (ih (w := .nothing) trivial later)

theorem scan_helpFirst {items : List Item} {arg : Bytes} {rest : List Bytes} (sound : Sound items)
    (asks : AsksForHelp arg) {w : Waiting} {settled : List Setting} (finished : w.finish = .ok settled) :
    scan w (writtenItems items ++ arg :: rest) = .error .help := by
  induction items generalizing w settled with
  | nil => exact (scan_help_iff (asksForHelp_iff.mp asks)).mpr ⟨settled, finished⟩
  | cons item items ih =>
    obtain ⟨f, v, form⟩ := item
    obtain ⟨placed, takes⟩ := sound _ List.mem_cons_self
    have others : Sound items := fun i member => sound i (List.mem_cons_of_mem _ member)
    obtain ⟨s, valid⟩ := Flag.takes_iff.mp takes
    cases form with
    | attached =>
      refine (scan_attached_help_iff (Argument.ofBytes_flag f (some v))).mpr ?_
      exact ⟨⟨settled, finished⟩, ⟨s, valid⟩, ih others (w := .nothing) rfl⟩
    | separate =>
      have waiting : Waiting.finish (.check f v) = .ok [s] :=
        Waiting.finish_check_iff.mpr ⟨s, valid, rfl⟩
      refine (scan_flag_help_iff (Argument.ofBytes_flag f none)).mpr ⟨⟨settled, finished⟩, ?_⟩
      exact (scan_plain_help_iff (canStandAlone_iff.mp (placed rfl))).mpr ⟨f, rfl, ih others waiting⟩

theorem scan_eq_help_iff {args : List Bytes} : scan .nothing args = .error .help ↔ HelpFirst args := by
  constructor
  · exact helpFirst_of_scan (w := .nothing) trivial
  · rintro ⟨items, arg, rest, rfl, sound, asks⟩
    exact scan_helpFirst sound asks (w := .nothing) rfl

theorem parse_eq_help_iff {argv : List Bytes} :
    parse argv = .error .help ↔ HelpFirst argv.tail := by
  rw [← scan_eq_help_iff, parse, bind_eq_help, or_iff_left]
  rintro ⟨settings, -, made⟩
  cases requested : requestOf settings <;> simp [requested, pure, Except.pure] at made

/-! ## Faults -/

namespace Item

/-- The first argument that an item is written as, and the others. -/
theorem written_eq_cons (item : Item) :
    ∃ value more, item.written = attach (flagArgument item.flag) value :: more := by
  obtain ⟨f, v, form⟩ := item
  cases form with
  | attached => exact ⟨some v, [], rfl⟩
  | separate => exact ⟨none, [v], rfl⟩

theorem written_inj {item other : Item} {rest rest' : List Bytes}
    (h : item.written ++ rest = other.written ++ rest') : item = other := by
  obtain ⟨f, v, form⟩ := item
  obtain ⟨g, u, form'⟩ := other
  cases form with
  | attached =>
    cases form' with
    | attached =>
      obtain ⟨rfl, value⟩ := attach_inj f g (some v) (some u) (List.cons.inj h).1
      rw [Option.some.inj value]
    | separate =>
      cases (attach_inj f g (some v) none (List.cons.inj h).1).2
  | separate =>
    cases form' with
    | attached =>
      cases (attach_inj f g none (some u) (List.cons.inj h).1).2
    | separate =>
      obtain ⟨rfl, -⟩ := attach_inj f g none none (List.cons.inj h).1
      have value : v = u := (List.cons.inj (List.cons.inj h).2).1
      rw [value]

end Item

namespace Fault

theorem head {args : List Bytes} (fault : Fault args) :
    ∃ arg rest, args = arg :: rest ∧ ¬Item.CanStandAlone arg := by
  cases fault with
  | unknown foreign => exact ⟨_, _, rfl, foreign.1⟩
  | @invalid item rest _ _ =>
    obtain ⟨value, more, written⟩ := item.written_eq_cons
    rw [written]
    exact ⟨_, _, rfl, not_canStandAlone_attach _ _⟩
  | @missing f _ _ _ => exact ⟨_, _, rfl, not_canStandAlone_attach f none⟩
  | behindEnd => exact ⟨_, _, rfl, not_canStandAlone_endMark⟩

theorem not_item {item : Item} {args : List Bytes} (placed : item.WellPlaced)
    (takes : item.flag.Takes item.value) : ¬Fault (item.written ++ args) := by
  intro fault
  obtain ⟨value, more, written⟩ := item.written_eq_cons
  generalize same : item.written ++ args = given at fault
  cases fault with
  | unknown foreign =>
    rw [written] at same
    exact foreign.2.1 _ _ (List.cons.inj same).1.symm
  | invalid _ untaken => exact untaken (Item.written_inj same ▸ takes)
  | @missing f arg rest unplaced =>
    obtain ⟨g, v, form⟩ := item
    cases form with
    | attached =>
      have first := (List.cons.inj same).1
      cases (attach_inj g f (some v) none first).2
    | separate =>
      have second := (List.cons.inj (List.cons.inj same).2).1
      exact unplaced (second ▸ placed rfl)
  | behindEnd =>
    rw [written] at same
    exact attach_ne_endMark _ _ (List.cons.inj same).1

theorem not_help {arg : Bytes} {rest : List Bytes} (asks : AsksForHelp arg) :
    ¬Fault (arg :: rest) := by
  intro fault
  generalize same : arg :: rest = given at fault
  cases fault with
  | unknown foreign => exact foreign.2.2.2 ((List.cons.inj same).1 ▸ asks)
  | @invalid item _ _ _ =>
    obtain ⟨value, more, written⟩ := item.written_eq_cons
    rw [written] at same
    exact not_asksForHelp_attach _ _ ((List.cons.inj same).1 ▸ asks)
  | @missing f _ _ _ => exact not_asksForHelp_attach f none ((List.cons.inj same).1 ▸ asks)
  | behindEnd => exact not_asksForHelp_endMark ((List.cons.inj same).1 ▸ asks)

theorem not_end {tail : List Bytes} (closed : tail = [] ∨ tail = [endMark]) : ¬Fault tail := by
  intro fault
  cases closed with
  | inl absent =>
    obtain ⟨arg, rest, same, -⟩ := fault.head
    rw [absent] at same
    cases same
  | inr present =>
    cases fault with
    | unknown foreign => exact foreign.2.2.1 (List.cons.inj present).1
    | @invalid item _ _ _ =>
      obtain ⟨value, more, written⟩ := item.written_eq_cons
      rw [written] at present
      exact attach_ne_endMark _ _ (List.cons.inj present).1
    | missing _ => cases (List.cons.inj present).2
    | behindEnd => cases (List.cons.inj present).2

end Fault

/-- An argument among sound items that is no value begins one of them. -/
theorem item_begins {items : List Item} {arg : Bytes} {before after : List Bytes}
    (sound : Sound items) (h : writtenItems items = before ++ arg :: after)
    (unplaced : ¬Item.CanStandAlone arg) :
    ∃ item ∈ items, ∃ more, arg :: after = item.written ++ more := by
  induction items generalizing before with
  | nil => simp [writtenItems] at h
  | cons item items ih =>
    have others : Sound items := fun i member => sound i (List.mem_cons_of_mem _ member)
    have later {before : List Bytes} (h : writtenItems items = before ++ arg :: after) :
        ∃ i ∈ item :: items, ∃ more, arg :: after = i.written ++ more := by
      obtain ⟨i, member, more, begins⟩ := ih others h
      exact ⟨i, List.mem_cons_of_mem _ member, more, begins⟩
    cases before with
    | nil => exact ⟨item, List.mem_cons_self, writtenItems items, h.symm⟩
    | cons b before =>
      obtain ⟨f, v, form⟩ := item
      cases form with
      | attached => exact later (List.cons.inj h).2
      | separate =>
        have second := (List.cons.inj h).2
        cases before with
        | nil =>
          have alone := (sound _ List.mem_cons_self).1 rfl
          exact absurd ((List.cons.inj second).1 ▸ alone) unplaced
        | cons b before => exact later (List.cons.inj second).2

/-- A fault does not begin among sound items. -/
theorem fault_behind {items : List Item} {tail before rest : List Bytes} (sound : Sound items)
    (h : writtenItems items ++ tail = before ++ rest) (fault : Fault rest) :
    ∃ between, before = writtenItems items ++ between ∧ tail = between ++ rest := by
  rcases List.append_eq_append_iff.mp h with ⟨between, first, second⟩ | ⟨among, first, second⟩
  · exact ⟨between, first, second⟩
  · cases among with
    | nil => exact ⟨[], by simpa using first.symm, by simpa using second.symm⟩
    | cons arg among =>
      obtain ⟨arg', rest', same, unplaced⟩ := fault.head
      rw [second] at same
      rw [(List.cons.inj same).1.symm] at unplaced
      obtain ⟨item, member, more, begins⟩ := item_begins sound first unplaced
      rw [second, begins, List.append_assoc] at fault
      exact absurd fault (Fault.not_item (sound item member).1 (sound item member).2)

section
variable {argv before rest : List Bytes} (line : argv.tail = before ++ rest)
  (fault : Fault rest)
include line fault

theorem not_helpFirst_of_fault (helpless : ∀ arg ∈ before, ¬AsksForHelp arg) :
    ¬HelpFirst argv.tail := by
  rintro ⟨items, arg, more, written, sound, asks⟩
  obtain ⟨between, first, second⟩ := fault_behind sound (written.symm.trans line) fault
  cases between with
  | nil =>
    rw [List.nil_append] at second
    exact Fault.not_help asks (second ▸ fault)
  | cons b between =>
    have earlier : arg ∈ before := by
      rw [first, (List.cons.inj second).1]
      simp
    exact helpless arg earlier asks

theorem not_accepted_of_fault : ¬∃ r, parse argv = .ok r := by
  rintro ⟨r, accepted⟩
  obtain ⟨settings, scanned, -⟩ := parse_eq_ok_iff.mp accepted
  obtain ⟨items, ⟨tail, written, closed, sound⟩, -⟩ := line_of_scan scanned
  obtain ⟨between, -, second⟩ := fault_behind sound (written.symm.trans line) fault
  cases between with
  | nil =>
    rw [List.nil_append] at second
    exact Fault.not_end (second ▸ closed) fault
  | cons b between =>
    -- the end mark is all that may follow the items, and it leaves no room for a fault behind it
    obtain ⟨arg, more, same, -⟩ := fault.head
    rw [second, same] at closed
    simp at closed

end

theorem refused_of {argv : List Bytes} (unhelped : ¬HelpFirst argv.tail)
    (unaccepted : ¬∃ r, parse argv = .ok r) : Refused argv := by
  cases answer : parse argv with
  | ok r => exact absurd ⟨r, answer⟩ unaccepted
  | error e =>
    refine ⟨e, ?_, answer⟩
    rintro rfl
    exact unhelped (parse_eq_help_iff.mp answer)

/-- Help is given exactly where it is asked for behind sound items, whatever follows; everything else that
is not accepted is refused. A fault before the first call for help is a refusal, and `--help` with a value
is one, as every other argument that is none of the flags. -/
theorem parse_helps_or_refuses (argv : List Bytes) :
    (parse argv = .error .help ↔ HelpFirst argv.tail) ∧
    ((¬∃ r, parse argv = .ok r) → ¬HelpFirst argv.tail → Refused argv) ∧
    (∀ before rest, argv.tail = before ++ rest → (∀ arg ∈ before, ¬AsksForHelp arg) → Fault rest →
      Refused argv) ∧
    (∀ value, Foreign (encode "--help=" ++ value)) ∧
    ((∀ arg ∈ argv.tail, ¬AsksForHelp arg) → parse argv ≠ .error .help) := by
  refine ⟨parse_eq_help_iff, ?_, ?_, foreign_valuedHelp, ?_⟩
  · intro unaccepted unhelped
    exact refused_of unhelped unaccepted
  · intro before rest line helpless fault
    apply refused_of
    · exact not_helpFirst_of_fault line fault helpless
    · exact not_accepted_of_fault line fault
  · intro helpless help
    obtain ⟨items, arg, rest, written, -, asks⟩ := parse_eq_help_iff.mp help
    have member : arg ∈ argv.tail := by
      rw [written]
      simp
    exact helpless arg member asks

/-- Nothing behind a call for help is read, and a value that waits is checked before it. -/
example :
    parse (["p", "--path=x", "-hx", "--bogus"].map encode) = .error .help ∧
      parse (["p", "--op", "bad", "--help"].map encode) = .error (.invalidValue .op "bad") := by
  decide

end SandboxProbe.CommandLine
