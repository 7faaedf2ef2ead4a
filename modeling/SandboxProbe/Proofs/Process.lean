import SandboxProbe.FileTree.Machine
import SandboxProbe.Process
import SandboxProbe.Proofs.Confinement

/-!
# What the metadata program comes to

Where the host has no sandbox library, `runnerProcess_ends`: the command line alone says which of three
ends a process comes to. The host's state is left as it was, and the environment has a say in nothing but
the events on standard error.
-/

namespace SandboxProbe

/-! ## Diagnostics are lines -/

/-- A text of one line, which is not empty. -/
def Text.IsLine (s : String) : Prop :=
  s ≠ "" ∧ '\n' ∉ s.toList

namespace Text.Styled

theorem lineFeed_notMem_firstLine (s : List Char) : '\n' ∉ firstLine s := by
  fun_induction firstLine s with
  | case1 => simp
  | case2 r => simp
  | case3 r => simp
  | case4 c r unfed unreturned ih =>
    rw [List.mem_cons, not_or]
    refine ⟨?_, ih⟩
    rintro rfl
    exact unfed rfl

/-- Neither stripping nor cutting changes these characters. -/
def IsWording (c : Char) : Prop :=
  ' ' ≤ c ∧ c < '\x7F'

instance (c : Char) : Decidable (IsWording c) :=
  inferInstanceAs (Decidable (_ ∧ _))

theorem IsWording.ne {c d : Char} (h : IsWording c) (other : ¬IsWording d) : c ≠ d := by
  rintro rfl
  exact other h

theorem read_ground {c : Char} (h : IsWording c) : Mode.ground.read c = (.ground, true) := by
  have escape : c ≠ '\x1B' := h.ne (by decide)
  have cancel : c ≠ '\x18' := h.ne (by decide)
  have substitute : c ≠ '\x1A' := h.ne (by decide)
  have delete : c ≠ '\x7F' := h.ne (by decide)
  have control : ¬c < ' ' := Char.not_lt.mpr h.1
  have above : ¬ '\x80' ≤ c := Char.not_le.mpr (Char.lt_trans h.2 (by decide))
  simp [Mode.read, escape, cancel, substitute, delete, control, above]

theorem stripFrom_append {text r : List Char} (h : ∀ c ∈ text, IsWording c) :
    stripFrom .ground (text ++ r) = text ++ stripFrom .ground r := by
  induction text with
  | nil => rfl
  | cons c text ih =>
    have kept := read_ground (h c List.mem_cons_self)
    have rest := ih fun c' member => h c' (List.mem_cons_of_mem _ member)
    rw [List.cons_append, stripFrom, kept, if_pos rfl, rest, List.cons_append]

theorem firstLine_append {text r : List Char} (h : ∀ c ∈ text, IsWording c) :
    firstLine (text ++ r) = text ++ firstLine r := by
  induction text with
  | nil => rfl
  | cons c text ih =>
    have wording := h c List.mem_cons_self
    have feed : c ≠ '\n' := wording.ne (by decide)
    have carriage : c ≠ '\r' := wording.ne (by decide)
    have rest := ih fun c' member => h c' (List.mem_cons_of_mem _ member)
    rw [List.cons_append, firstLine, rest, List.cons_append]
    · exact feed
    · exact fun _ same _ => carriage same

theorem prefix_headline {wording : String} (h : ∀ c ∈ wording.toList, IsWording c)
    (more : List Piece) : wording.toList <+: (headline (.plain wording :: more)).toList := by
  have cut : (headline (.plain wording :: more)).toList =
      wording.toList ++ firstLine (stripFrom .ground (more.flatMap Piece.written)) := by
    rw [headline, String.toList_ofList, List.flatMap_cons, strip, Piece.written,
      stripFrom_append h, firstLine_append h]
  rw [cut]
  exact List.prefix_append _ _

end Text.Styled

namespace CommandLine.Refusal

open Text.Styled

theorem pieces_begin (e : Refusal) :
    ∃ wording more, e.pieces = .plain wording :: more ∧ wording ≠ "" ∧
      wording.toList.all (IsWording ·) := by
  cases e <;> exact ⟨_, _, rfl, by decide, by decide⟩

theorem isLine_message (e : Refusal) : Text.IsLine e.message := by
  constructor
  · intro blank
    -- a value may strip down to nothing or begin with a line feed; the wording in front of it stays
    obtain ⟨wording, more, begins, full, plain⟩ := e.pieces_begin
    rw [List.all_eq_true] at plain
    have headed := prefix_headline (fun c member => of_decide_eq_true (plain c member)) more
    rw [← begins] at headed
    rw [message] at blank
    rw [blank] at headed
    apply full
    simpa using headed
  · rw [message, headline, String.toList_ofList]
    exact lineFeed_notMem_firstLine _

end CommandLine.Refusal

/-! ## A host without the library -/

variable {σ : Type}

namespace Profile

/-- No profile was put in force, and the host's state was left alone. -/
structure Unavailable (p : Profile) (s : Session σ) (v : Verdict) (after : Session σ) : Prop where
  rc : v.rc = -1 ∨ v.rc = -2
  kind : v.kind = p.kind
  state : after.state = s.state

variable {host : Host σ} {set : Option Errno} {said : Option Bytes}

theorem enforce_unavailable (absent : host.library library = .missing set said) (p : Profile)
    (s : Session σ) :
    Unavailable p s ((enforce host (some p)).run s).1 ((enforce host (some p)).run s).2 := by
  cases p with
  | text path =>
    change Unavailable _ _ ((enforceText host path).run _).1 ((enforceText host path).run _).2
    rw [run_enforceText]
    exact ⟨textVerdict_rc _, textVerdict_kind _, rfl⟩
  | blob path =>
    change Unavailable _ _ ((enforceBlob host path).run _).1 ((enforceBlob host path).run _).2
    rw [run_enforceBlob_noLibrary host _ absent]
    exact ⟨.inl rfl, rfl, rfl⟩

theorem Unavailable.rc_ne_zero {p : Profile} {s after : Session σ} {v : Verdict}
    (h : Unavailable p s v after) : v.rc ≠ 0 := by
  rcases h.rc with rc | rc <;> rw [rc] <;> decide

end Profile

namespace Request

/-- A record of the request that says that no profile was put in force, and of which kind it was. -/
structure Unenforced (r : Request) (record : Record) : Prop where
  status : record.status = .notConfined
  rc : record.verdict.rc = -1 ∨ record.verdict.rc = -2
  kind : record.verdict.kind = r.profile.kind
  target : record.op = r.op.word ∧ record.path = r.path ∧ record.syscall = r.syscall ∧
    record.payload = r.payload.map PayloadKind.word

variable {host : Host σ} {set : Option Errno} {said : Option Bytes}

theorem fulfil_unavailable (absent : host.library Profile.library = .missing set said) (r : Request)
    (s : Session σ) :
    r.Unenforced ((r.fulfil host).run s).1 ∧ ((r.fulfil host).run s).2.state = s.state ∧
      ∃ new, ((r.fulfil host).run s).2.calls = s.calls ++ new ∧ ∀ call ∈ new, ¬call.OnFile := by
  have unavailable := Profile.enforce_unavailable absent r.profile s
  have failed := unavailable.rc_ne_zero
  obtain ⟨new, made, refused | entered⟩ := Profile.enforce_refused_or_entered host s r.profile
  · have calls := r.calls_fulfil_of_refused host s made refused
    rw [fulfil, run_fulfilWith_of_not_holds r host _ s failed] at calls ⊢
    refine ⟨⟨rfl, unavailable.rc, unavailable.kind, rfl, rfl, rfl, rfl⟩, unavailable.state, ?_⟩
    exact ⟨new, calls, refused.2⟩
  · obtain ⟨path, data, -, -, -, holds, -⟩ := entered
    exact absurd holds failed

end Request

/-! ## The log -/

namespace Environment

/-- Neither variable holds a filter, set or not. -/
def Unfiltered (env : Environment) : Prop :=
  env.filter? logVariable = none ∧ env.filter? fallbackLogVariable = none

theorem unfiltered_of_unset {env : Environment} (log : env logVariable = none)
    (fallback : env fallbackLogVariable = none) : env.Unfiltered := by
  simp [Unfiltered, filter?, log, fallback]

theorem filter_of_unfiltered {env : Environment} (h : env.Unfiltered) : env.filter = .standard := by
  rw [filter, h.1, h.2]
  rfl

end Environment

/-- No event is a warning or an error. -/
theorem Filter.standard_admits (e : Event) : standard.admits e = false := by
  cases e <;> rfl

theorem Event.text_of_unfiltered {env : Environment} (h : env.Unfiltered) (events : List Event) :
    text (events.filter env.filter.admits) = "" := by
  have nothing : events.filter Filter.standard.admits = [] := by
    simp [Filter.standard_admits]
  rw [Environment.filter_of_unfiltered h, nothing]
  rfl

/-! ## Processes -/

inductive Ending
  | help
  | usageError
  | record
  deriving DecidableEq, Repr

namespace Ending

def ofParse : Except CommandLine.Refusal Request → Ending
  | .error .help => .help
  | .error _ => .usageError
  | .ok _ => .record

/-- What an end is from outside. A diagnostic is one line, an empty line comes behind it; a record tells
that the profile which was chosen is not in force, and behind it there are events at most. -/
def SeenIn (argv : List Bytes) (env : Environment) (log : List Event) (p : ProcessReport) :
    Ending → Prop
  | .help => p = ⟨0, "", CommandLine.usage⟩
  | .usageError => ∃ e, CommandLine.parse argv = .error e ∧ Text.IsLine e.message ∧
      p = ⟨64, "", e.message ++ "\n\n" ++ CommandLine.usage⟩
  | .record => ∃ request record, CommandLine.parse argv = .ok request ∧ request.Unenforced record ∧
      p = ⟨0, record.render ++ "\n", Event.text (log.filter env.filter.admits)⟩ ∧
      (env.Unfiltered → p.stderr = "")

/-- Exit status and standard output tell the ends apart. -/
def ofReport (p : ProcessReport) : Ending :=
  if p.status ≠ 0 then .usageError else if p.stdout = "" then .help else .record

variable {argv : List Bytes} {env : Environment} {log : List Event} {p : ProcessReport}

theorem ofReport_eq {ending : Ending} (seen : ending.SeenIn argv env log p) :
    ofReport p = ending := by
  cases ending with
  | help =>
    rw [show p = _ from seen]
    rfl
  | usageError =>
    obtain ⟨e, -, -, rfl⟩ := seen
    rfl
  | record =>
    obtain ⟨request, record, -, -, rfl, -⟩ := seen
    have full : record.render ++ "\n" ≠ "" := by simp
    simp [ofReport, full]

theorem SeenIn.unique {a b : Ending} (ha : a.SeenIn argv env log p)
    (hb : b.SeenIn argv env log p) : a = b :=
  (ofReport_eq ha).symm.trans (ofReport_eq hb)

theorem ofParse_refused {e : CommandLine.Refusal} (h : e ≠ .help) :
    ofParse (.error e) = .usageError := by
  cases e with
  | help => exact absurd rfl h
  | _ => rfl

end Ending

section
variable (host : Host σ) (start : Session σ) (env : Environment) {args : List Bytes}

theorem runnerProcess_help (h : CommandLine.parse (programName :: args) = .error .help) :
    runnerProcess host start env args = (⟨0, "", CommandLine.usage⟩, start) := by
  simp only [runnerProcess, h]
  rfl

theorem runnerProcess_refused {e : CommandLine.Refusal}
    (h : CommandLine.parse (programName :: args) = .error e) (he : e ≠ .help) :
    runnerProcess host start env args =
      (⟨64, "", e.message ++ "\n\n" ++ CommandLine.usage⟩, start) := by
  simp only [runnerProcess, h]
  rfl

theorem runnerProcess_accepted {request : Request}
    (h : CommandLine.parse (programName :: args) = .ok request) :
    runnerProcess host start env args =
      let fulfilled := (request.fulfil host).run start
      (⟨0, fulfilled.1.printed, Event.text (fulfilled.2.events.filter env.filter.admits)⟩,
        fulfilled.2) := by
  simp only [runnerProcess, h]
  rfl

/-- Of the environment a process shows the filter on standard error, and nothing else. -/
theorem runnerProcess_environment (other : Environment) (args : List Bytes) :
    (runnerProcess host start other args).1.status = (runnerProcess host start env args).1.status ∧
      (runnerProcess host start other args).1.stdout = (runnerProcess host start env args).1.stdout ∧
      (runnerProcess host start other args).2 = (runnerProcess host start env args).2 := by
  unfold runnerProcess
  cases CommandLine.parse (programName :: args) with
  | error e => cases e <;> exact ⟨rfl, rfl, rfl⟩
  | ok request => exact ⟨rfl, rfl, rfl⟩

end

/-- What every process comes to that has no sandbox library: the end that its command line leads to, the
state as it was, and no call on a file. -/
theorem runnerProcess_seen {host : Host σ} {set : Option Errno} {said : Option Bytes}
    (absent : host.library Profile.library = .missing set said) (start : Session σ)
    (env : Environment) (args : List Bytes) :
    let argv := programName :: args
    let done := runnerProcess host start env args
    (Ending.ofParse (CommandLine.parse argv)).SeenIn argv env done.2.events done.1 ∧
      done.2.state = start.state ∧
      ∃ new, done.2.calls = start.calls ++ new ∧ ∀ call ∈ new, ¬call.OnFile := by
  intro argv done
  have still (h : done.2 = start) : done.2.state = start.state ∧
      ∃ new, done.2.calls = start.calls ++ new ∧ ∀ call ∈ new, ¬call.OnFile := by
    rw [h]
    exact ⟨rfl, [], (List.append_nil _).symm, by simp⟩
  cases parsed : CommandLine.parse argv with
  | error e =>
    by_cases help : e = .help
    · rw [help] at parsed ⊢
      have run : done = _ := runnerProcess_help host start env parsed
      refine ⟨?_, still (by rw [run])⟩
      rw [run]
      rfl
    · have run : done = _ := runnerProcess_refused host start env parsed help
      refine ⟨?_, still (by rw [run])⟩
      rw [run, Ending.ofParse_refused help]
      exact ⟨e, parsed, e.isLine_message, rfl⟩
  | ok request =>
    obtain ⟨unenforced, untouched⟩ := request.fulfil_unavailable absent start
    have run : done = _ := runnerProcess_accepted host start env parsed
    rw [run]
    refine ⟨?_, untouched⟩
    refine ⟨request, _, parsed, unenforced, rfl, ?_⟩
    intro unfiltered
    exact Event.text_of_unfiltered unfiltered _

/-- Without a sandbox library a process leaves the host's state alone and makes no call on a file. Of the
three ends it shows the one that its command line leads to, and no other. Status, standard output, calls
and events are the same in every environment. -/
theorem runnerProcess_ends (host : Host σ) {set : Option Errno} {said : Option Bytes}
    (absent : host.library Profile.library = .missing set said) (state : σ) (errno : Errno)
    (pending : Option Bytes) (args : List Bytes) (env : Environment) :
    let argv := programName :: args
    let start := Session.start state errno pending
    let done := runnerProcess host start env args
    done.2.state = state ∧ (∀ call, .file call ∉ done.2.calls) ∧
    (∀ ending : Ending, ending.SeenIn argv env done.2.events done.1 ↔
      ending = .ofParse (CommandLine.parse argv)) ∧
    ∀ other, (runnerProcess host start other args).1.status = done.1.status ∧
      (runnerProcess host start other args).1.stdout = done.1.stdout ∧
      (runnerProcess host start other args).2 = done.2 := by
  intro argv start done
  obtain ⟨seen, still, new, made, unfiled⟩ := runnerProcess_seen absent start env args
  have calls : done.2.calls = new := made
  refine ⟨still, ?_, ?_, ?_⟩
  · intro call member
    rw [calls] at member
    exact unfiled _ member trivial
  · intro ending
    constructor
    · intro shown
      exact shown.unique seen
    · rintro rfl
      exact seen
  · intro other
    exact runnerProcess_environment host start env other args

/-- A change of mode on a machine with a text profile and a target: the tree stays, the end is a record,
and nothing is told. -/
theorem runnerProcess_ends_chmod :
    let tree : Tree := ⟨[], [([], ⟨.directory, 0o755, 0, 0⟩), ([[0x70]], ⟨.file [], 0o644, 0, 0⟩),
      ([[0x74]], ⟨.file [1], 0o644, 0, 0⟩)]⟩
    let host := Machine.host ⟨0, 0⟩ ⟨0, 0⟩
    let args := ["--sbpl", "p", "--op", "file-write*", "--path", "t"].map Text.Utf8.encode
    let env : Environment := fun _ => none
    let done := runnerProcess host (Session.start (Machine.start tree) .zero none) env args
    (∃ said, host.library Profile.library = .missing (some .noEntry) said) ∧
      done.2.state.tree = tree ∧
      Ending.record.SeenIn (programName :: args) env done.2.events done.1 ∧ done.1.stderr = "" := by
  intro tree host args env done
  have absent : host.library Profile.library = .missing (some .noEntry) _ := rfl
  obtain ⟨still, -, ends, -⟩ :=
    runnerProcess_ends host absent (Machine.start tree) .zero none args env
  have parsed : CommandLine.parse (programName :: args) =
      .ok ⟨.text [0x70], .write, "t", "chmod", none, 0o640⟩ := rfl
  have seen : Ending.record.SeenIn (programName :: args) env done.2.events done.1 := by
    rw [ends, parsed]
    rfl
  obtain ⟨request, record, -, -, -, silent⟩ := id seen
  refine ⟨⟨_, absent⟩, ?_, seen, silent (Environment.unfiltered_of_unset rfl rfl)⟩
  rw [still]
  rfl

end SandboxProbe
