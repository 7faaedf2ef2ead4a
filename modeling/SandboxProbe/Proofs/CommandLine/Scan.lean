import SandboxProbe.CommandLine.Parse
import SandboxProbe.Proofs.CommandLine.Arguments
import SandboxProbe.Proofs.CommandLine.Settings

/-!
# The scanner and the grammar

`scan_eq_ok_iff`: the scanner comes to settings exactly on the arguments that are written for them. What
waits stands for arguments that have been read already, so a scan from there is a scan of those arguments
and of the ones to come.
-/

namespace SandboxProbe.CommandLine

/-! ## Building command lines -/

theorem written_nil : Written [] [] :=
  ⟨[], [], rfl, .inl rfl, by simp, rfl⟩

theorem written_endMark : Written [endMark] [] :=
  ⟨[], [endMark], rfl, .inr rfl, by simp, rfl⟩

theorem written_item {item : Item} {s : Setting} {args : List Bytes} {settings : List Setting}
    (placed : item.WellPlaced) (valid : item.setting = .ok s) (rest : Written args settings) :
    Written (item.written ++ args) (s :: settings) := by
  obtain ⟨items, tail, written, closed, allPlaced, allValid⟩ := rest
  refine ⟨item :: items, tail, ?_, closed, ?_, ?_⟩
  · rw [written, writtenItems, writtenItems, List.flatMap_cons, List.append_assoc]
  · intro i member
    cases member with
    | head => exact placed
    | tail _ member => exact allPlaced i member
  · rw [List.map_cons, List.map_cons, valid, allValid]

theorem Item.wellPlaced_attached (f : Flag) (v : Bytes) : WellPlaced ⟨f, v, .attached⟩ := by
  intro form
  cases form

theorem Item.wellPlaced_separate {f : Flag} {v : Bytes} (alone : CanStandAlone v) :
    WellPlaced ⟨f, v, .separate⟩ :=
  fun _ => alone

theorem written_attached {f : Flag} {v : Bytes} {s : Setting} {args : List Bytes}
    {settings : List Setting} (valid : f.check v = .ok s) (rest : Written args settings) :
    Written ((Item.flagArgument f ++ equalsSign :: v) :: args) (s :: settings) :=
  written_item (Item.wellPlaced_attached f v) valid rest

theorem written_separate {f : Flag} {v : Bytes} {s : Setting} {args : List Bytes}
    {settings : List Setting} (placed : Item.CanStandAlone v) (valid : f.check v = .ok s)
    (rest : Written args settings) :
    Written (Item.flagArgument f :: v :: args) (s :: settings) :=
  written_item (Item.wellPlaced_separate placed) valid rest

/-! ## What waits -/

namespace Waiting

/-- The arguments that what waits was read from. -/
def pending : Waiting → List Bytes
  | .nothing => []
  | .value f => [Item.flagArgument f]
  | .check f v => [Item.flagArgument f, v]

/-- A value that waits came in an argument of its own. -/
def Placed : Waiting → Prop
  | .check _ v => Item.CanStandAlone v
  | _ => True

theorem finish_check_iff {f : Flag} {v : Bytes} {settled : List Setting} :
    finish (.check f v) = .ok settled ↔ ∃ s, f.check v = .ok s ∧ settled = [s] := by
  rw [finish]
  cases f.check v with
  | error e => simp [Except.map]
  | ok s => simp [Except.map, eq_comm]

theorem written_finish {w : Waiting} {settled more : List Setting} {args : List Bytes}
    (placed : w.Placed) (finished : w.finish = .ok settled) (rest : Written args more) :
    Written (w.pending ++ args) (settled ++ more) := by
  cases w with
  | nothing =>
    cases finished
    exact rest
  | value f => cases finished
  | check f v =>
    obtain ⟨s, valid, rfl⟩ := finish_check_iff.mp finished
    exact written_separate placed valid rest

end Waiting

/-! ## One argument of a scan -/

section
variable {w : Waiting} {arg : Bytes} {rest : List Bytes}

theorem scan_nil : scan w [] = w.finish := by
  rw [scan.eq_def]

theorem scan_cons_flag {f : Flag} (kind : Argument.ofBytes arg = .flag f none) :
    scan w (arg :: rest) = do
      let settled ← w.finish
      return settled ++ (← scan (.value f) rest) := by
  rw [scan.eq_def]
  simp only [kind]

theorem scan_cons_attached {f : Flag} {v : Bytes} (kind : Argument.ofBytes arg = .flag f (some v)) :
    scan w (arg :: rest) = do
      let settled ← w.finish
      let s ← f.check v
      return settled ++ s :: (← scan .nothing rest) := by
  rw [scan.eq_def]
  simp only [kind]

theorem scan_cons_help (kind : Argument.ofBytes arg = .help) :
    scan w (arg :: rest) = w.finish >>= fun _ => .error .help := by
  rw [scan.eq_def]
  simp only [kind]

/-- A value is taken by the flag that waits for it. -/
theorem scan_cons_plain {v : Bytes} {answer : Except Refusal (List Setting)}
    (kind : Argument.ofBytes arg = .plain v)
    (other : answer ≠ .error (.unexpectedArgument (Text.Utf8.lossy v))) :
    scan w (arg :: rest) = answer ↔ ∃ f, w = .value f ∧ scan (.check f v) rest = answer := by
  rw [scan.eq_def]
  simp only [kind]
  cases w with
  | value f => simp
  | nothing => simp [other.symm]
  | check g u => simp [other.symm]

theorem scan_cons_endOfFlags (kind : Argument.ofBytes arg = .endOfFlags) :
    scan w (arg :: rest) = if rest = [] then w.finish else
      .error (.unexpectedArgument (Text.Utf8.lossy (rest.headD []))) := by
  rw [scan.eq_def]
  simp only [kind]
  cases rest <;> rfl

theorem scan_cons_unknown {shown : String} (kind : Argument.ofBytes arg = .unknown shown) :
    scan w (arg :: rest) = .error (.unexpectedArgument shown) := by
  rw [scan.eq_def]
  simp only [kind]

theorem scan_cons_valuedHelp {v : Bytes} (kind : Argument.ofBytes arg = .valuedHelp v) :
    scan w (arg :: rest) = .error (.valueForHelp (Text.Utf8.lossy v)) := by
  rw [scan.eq_def]
  simp only [kind]

end

/-! ## Scans that come to settings -/

section
variable {w : Waiting} {arg : Bytes} {rest : List Bytes} {settings : List Setting}

theorem scan_flag {f : Flag} (kind : Argument.ofBytes arg = .flag f none) :
    scan w (arg :: rest) = .ok settings ↔
      ∃ settled, w.finish = .ok settled ∧
        ∃ more, scan (.value f) rest = .ok more ∧ settings = settled ++ more := by
  rw [scan_cons_flag kind]
  refine bind_eq_ok.trans (exists_congr fun settled => and_congr_right' ?_)
  exact return_eq_ok

theorem scan_attached {f : Flag} {v : Bytes} (kind : Argument.ofBytes arg = .flag f (some v)) :
    scan w (arg :: rest) = .ok settings ↔
      ∃ settled, w.finish = .ok settled ∧ ∃ s, f.check v = .ok s ∧
        ∃ more, scan .nothing rest = .ok more ∧ settings = settled ++ s :: more := by
  rw [scan_cons_attached kind]
  refine bind_eq_ok.trans (exists_congr fun settled => and_congr_right' ?_)
  refine bind_eq_ok.trans (exists_congr fun s => and_congr_right' ?_)
  exact return_eq_ok

theorem scan_plain {v : Bytes} (kind : Argument.ofBytes arg = .plain v) :
    scan w (arg :: rest) = .ok settings ↔
      ∃ f, w = .value f ∧ scan (.check f v) rest = .ok settings :=
  scan_cons_plain kind (by simp)

theorem scan_endOfFlags (kind : Argument.ofBytes arg = .endOfFlags) :
    scan w (arg :: rest) = .ok settings ↔ rest = [] ∧ w.finish = .ok settings := by
  rw [scan_cons_endOfFlags kind]
  by_cases last : rest = [] <;> simp [last]

theorem scan_unknown {shown : String} (kind : Argument.ofBytes arg = .unknown shown) :
    scan w (arg :: rest) ≠ .ok settings := by
  simp [scan_cons_unknown kind]

theorem scan_valuedHelp {v : Bytes} (kind : Argument.ofBytes arg = .valuedHelp v) :
    scan w (arg :: rest) ≠ .ok settings := by
  simp [scan_cons_valuedHelp kind]

theorem scan_help (kind : Argument.ofBytes arg = .help) :
    scan w (arg :: rest) ≠ .ok settings := by
  rw [scan_cons_help kind, Ne, bind_eq_ok]
  simp

end

/-! ## From the scanner to the grammar -/

theorem written_of_scan {w : Waiting} {args : List Bytes} {settings : List Setting}
    (placed : w.Placed) (h : scan w args = .ok settings) :
    Written (w.pending ++ args) settings := by
  -- what waits goes with the arguments to come, so that the hypothesis is about one command line
  induction args generalizing w settings with
  | nil =>
    rw [scan_nil] at h
    simpa using Waiting.written_finish placed h written_nil
  | cons arg rest ih =>
    have spelled := Argument.writtenAs_ofBytes arg
    cases kind : Argument.ofBytes arg with
    | unknown shown => exact absurd h (scan_unknown kind)
    | valuedHelp v => exact absurd h (scan_valuedHelp kind)
    | help => exact absurd h (scan_help kind)
    | endOfFlags =>
      rw [kind] at spelled
      obtain ⟨rfl, finished⟩ := (scan_endOfFlags kind).mp h
      rw [spelled]
      simpa using Waiting.written_finish placed finished written_endMark
    | plain v =>
      rw [kind] at spelled
      obtain ⟨f, rfl, checked⟩ := (scan_plain kind).mp h
      rw [spelled.1]
      exact ih (w := .check f v) spelled.2 checked
    | flag f value =>
      rw [kind] at spelled
      cases value with
      | none =>
        obtain ⟨settled, finished, more, later, rfl⟩ := (scan_flag kind).mp h
        refine Waiting.written_finish placed finished ?_
        rw [spelled]
        exact ih (w := .value f) trivial later
      | some v =>
        obtain ⟨settled, finished, s, valid, more, later, rfl⟩ := (scan_attached kind).mp h
        refine Waiting.written_finish placed finished ?_
        rw [spelled]
        exact written_attached valid (ih (w := .nothing) trivial later)

/-! ## From the grammar to the scanner -/

theorem scan_written {items : List Item} {tail : List Bytes} (closed : tail = [] ∨ tail = [endMark])
    (placed : ∀ item ∈ items, item.WellPlaced) {w : Waiting} {settled settings : List Setting}
    (finished : w.finish = .ok settled)
    (valid : items.map Item.setting = settings.map Except.ok) :
    scan w (writtenItems items ++ tail) = .ok (settled ++ settings) := by
  induction items generalizing w settled settings with
  | nil =>
    have none : settings = [] := List.map_eq_nil_iff.mp valid.symm
    rw [none, List.append_nil]
    cases closed with
    | inl absent => rw [absent]; exact scan_nil.trans finished
    | inr present =>
      rw [present]
      exact (scan_endOfFlags rfl).mpr ⟨rfl, finished⟩
  | cons item items ih =>
    obtain ⟨f, v, form⟩ := item
    cases settings with
    | nil => cases valid
    | cons s more =>
      obtain ⟨first, others⟩ := List.cons_eq_cons.mp valid
      have others_placed : ∀ i ∈ items, i.WellPlaced :=
        fun i member => placed i (List.mem_cons_of_mem _ member)
      cases form with
      | attached =>
        exact (scan_attached (Argument.ofBytes_flag f (some v))).mpr
          ⟨settled, finished, s, first, more, ih others_placed (w := .nothing) rfl others, rfl⟩
      | separate =>
        have alone := placed _ List.mem_cons_self rfl
        have waiting : Waiting.finish (.check f v) = .ok [s] :=
          Waiting.finish_check_iff.mpr ⟨s, first, rfl⟩
        refine (scan_flag (Argument.ofBytes_flag f none)).mpr
          ⟨settled, finished, s :: more, ?_, rfl⟩
        exact (scan_plain (Argument.ofBytes_plain alone)).mpr ⟨f, rfl, ih others_placed waiting others⟩

theorem scan_eq_ok_iff {args : List Bytes} {settings : List Setting} :
    scan .nothing args = .ok settings ↔ Written args settings := by
  constructor
  · exact written_of_scan (w := .nothing) trivial
  · rintro ⟨items, tail, rfl, closed, placed, valid⟩
    exact scan_written (w := .nothing) closed placed rfl valid

end SandboxProbe.CommandLine
