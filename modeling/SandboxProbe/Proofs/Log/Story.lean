import SandboxProbe.Proofs.Log.Lines

/-!
# The log tells what the record tells

A run ends its log with one event that belongs to the status of its record, and with none where the
path was refused before a call was made. The events before it are those of putting the profile in force,
and which steps of the loader they report can be seen from the calls and the verdict, too.
-/

namespace SandboxProbe

variable {σ : Type}

namespace Event

/-- An event with this message is among the events. -/
def Told (message : String) (events : List Event) : Prop :=
  ∃ e ∈ events, e.message = message

theorem told_nil (message : String) : ¬ Told message [] := by
  simp [Told]

theorem told_cons {message : String} {e : Event} {events : List Event} :
    Told message (e :: events) ↔ e.message = message ∨ Told message events := by
  simp [Told]

theorem told_append {message : String} {a b : List Event} :
    Told message (a ++ b) ↔ Told message a ∨ Told message b := by
  simp only [Told, List.mem_append, or_and_right, exists_or]

/-- The message is told exactly in this case, and then by the only event, which has these fields. -/
def Closes (closing : List Event) (message : String) (fields : List (String × String))
    (case : Prop) : Prop :=
  (Told message closing ↔ case) ∧ (case → closing.map shown = [(.debug, message, fields)])

theorem closes_nil {message : String} {fields : List (String × String)} {case : Prop}
    (h : ¬ case) : Closes [] message fields case :=
  ⟨iff_of_false (told_nil message) h, fun hcase => absurd hcase h⟩

theorem closes_other {e : Event} {message : String} {fields : List (String × String)} {case : Prop}
    (hmessage : e.message ≠ message) (h : ¬ case) : Closes [e] message fields case := by
  refine ⟨iff_of_false ?_ h, fun hcase => absurd hcase h⟩
  rw [told_cons]
  exact fun htold => htold.elim hmessage (told_nil message)

theorem closes_self {e : Event} {message : String} {fields : List (String × String)} {case : Prop}
    (hshown : e.shown = (.debug, message, fields)) (h : case) : Closes [e] message fields case := by
  have hmessage : e.message = message := congrArg (·.2.1) hshown
  exact ⟨iff_of_true (told_cons.mpr (.inl hmessage)) h, fun _ => by rw [List.map_singleton, hshown]⟩

end Event

open Event (Told Closes closes_nil closes_other closes_self told_cons told_append told_nil)

/-! ## The closing event -/

namespace Record

/-- The path was refused, and no call was made on it. -/
def PathRefused (record : Record) : Prop :=
  record.status = .failed ∧ '\x00' ∈ record.path.toList

/-- A log that ends in what the record tells. -/
structure ToldBy (record : Record) (closing : List Event) : Prop where
  notConfined : Closes closing "sandbox apply failed; skipping operation"
    [("rc", Errno.decimal record.verdict.rc), ("mode", record.verdict.kind.title)]
    (record.status = .notConfined)
  offMenu : Closes closing "unsupported combination"
    [("op", Event.marked record.op), ("syscall", record.syscall)] (record.status = .offMenu)
  dispatched : Closes closing "dispatching metadata call"
    [("syscall", Event.marked record.syscall), ("path", record.path)]
    ((record.status = .ok ∨ record.status = .failed) ∧ '\x00' ∉ record.path.toList)
  silent : closing = [] ↔ record.PathRefused
  single : closing.length = 1 ↔ ¬ record.PathRefused

section
variable {record : Record}

theorem toldBy_notEnforced {rc : Int32} {kind : ProfileKind} (hs : record.status = .notConfined)
    (hrc : record.verdict.rc = rc) (hkind : record.verdict.kind = kind) :
    record.ToldBy [.notEnforced rc kind] where
  notConfined := closes_self (by rw [hrc, hkind]; rfl) hs
  offMenu := closes_other (by simp [Event.message]) (by simp [hs])
  dispatched := closes_other (by simp [Event.message]) (by simp [hs])
  silent := by simp [PathRefused, hs]
  single := by simp [PathRefused, hs]

theorem toldBy_offMenu {op : Operation} {syscall : String} (hs : record.status = .offMenu)
    (hop : record.op = op.word) (hsyscall : record.syscall = syscall) :
    record.ToldBy [.offMenu op syscall] where
  notConfined := closes_other (by simp [Event.message]) (by simp [hs])
  offMenu := closes_self (by rw [hop, hsyscall]; rfl) hs
  dispatched := closes_other (by simp [Event.message]) (by simp [hs])
  silent := by simp [PathRefused, hs]
  single := by simp [PathRefused, hs]

theorem toldBy_dispatching {call : MenuCall} {path : Bytes}
    (hs : record.status = .ok ∨ record.status = .failed) (hsyscall : record.syscall = call.name)
    (hpath : record.path = Text.Utf8.lossy path) (hn : '\x00' ∉ record.path.toList) :
    record.ToldBy [.dispatching call path] where
  notConfined := closes_other (by simp [Event.message]) (by rcases hs with hs | hs <;> simp [hs])
  offMenu := closes_other (by simp [Event.message]) (by rcases hs with hs | hs <;> simp [hs])
  dispatched := closes_self (by rw [hsyscall, hpath]; rfl) ⟨hs, hn⟩
  silent := by simp [PathRefused, hn]
  single := by simp [PathRefused, hn]

theorem toldBy_nothing (h : record.PathRefused) : record.ToldBy [] where
  notConfined := closes_nil (by simp [h.1])
  offMenu := closes_nil (by simp [h.1])
  dispatched := closes_nil fun hd => hd.2 h.2
  silent := by simp [h]
  single := by simp [h]

end

end Record

/-- Where the path holds no NUL, an entry ends done or failed. -/
theorem status_issue (host : Host σ) (s : Session σ) {mode : UInt32} {path : Bytes}
    {call : MenuCall} (hn : Library.holdsNul path = false) :
    ((call.issue host mode path).run s).1.report.status = .ok ∨
      ((call.issue host mode path).run s).1.report.status = .failed := by
  rw [outcome_issue host s hn]
  rcases Plan.outcome_cases host path s.state call (call.plan host mode path) with h | ⟨e, h⟩ |
    ⟨e, h⟩
  · exact .inl (by rw [h]; rfl)
  · exact .inr (by rw [h]; rfl)
  · exact .inr (by rw [h]; rfl)

namespace Request

variable (r : Request) (host : Host σ) (s : Session σ)

theorem toldBy_callEvents (v : Verdict) :
    (Record.ofReport r.target v ((r.makeCall host).run s).1.report).ToldBy r.callEvents := by
  unfold makeCall callEvents
  cases hc : r.op.call? r.syscall with
  | none => exact Record.toldBy_offMenu rfl rfl rfl
  | some call =>
    simp only [MenuCall.events]
    cases hn : Library.holdsNul (Text.Utf8.encode r.path) with
    | true =>
      rw [run_issue_nul host s hn]
      exact Record.toldBy_nothing ⟨rfl, (Text.Utf8.holdsNul_encode r.path).mp hn⟩
    | false =>
      have hpath : '\x00' ∉ r.path.toList := by
        rw [← Text.Utf8.holdsNul_encode, hn]
        exact Bool.false_ne_true
      exact Record.toldBy_dispatching (status_issue host s hn) (name_of_call? hc).symm
        (Text.Utf8.lossy_encode r.path).symm hpath

theorem toldBy_eventsAfter (enforce : Option Profile → Action σ Verdict) :
    ((r.fulfilWith host enforce).run s).1.ToldBy
      (r.eventsAfter ((enforce (some r.profile)).run s).1) := by
  unfold eventsAfter
  by_cases h : ((enforce (some r.profile)).run s).1.rc = 0
  · rw [run_fulfilWith_of_holds r host enforce s h, if_pos h]
    exact toldBy_callEvents r host _ _
  · rw [run_fulfilWith_of_not_holds r host enforce s h, if_neg h]
    exact Record.toldBy_notEnforced rfl rfl rfl

end Request

/-! ## The steps of the loader -/

namespace Profile

def announcement : Profile → String
  | .text _ => "applying sbpl profile"
  | .blob _ => "applying compiled profile blob"

/-- The events of a run that puts `p` in force begin with the profile, and report those steps of the
loader that the calls and the message of the verdict show; these are the steps that were taken. -/
structure Tells (host : Host σ) (p : Profile) (events : List Event) (calls : List HostCall)
    (message : Option String) : Prop where
  source : ∃ e rest, events = e :: rest ∧
    e.shown = (.debug, p.announcement, [("path", Text.Utf8.lossy p.path)])
  lookedUp : Told "dlopen succeeded" events ↔ .dlsym entryPoint ∈ calls
  closed : Told "dlopen succeeded" events ↔ .dlclose ∈ calls
  opened : Told "dlopen succeeded" events ↔
    ∃ path e, p = .blob path ∧ host.library library = .found e
  notOpened : Told "libsandbox unavailable" events ↔
    .dlopen library Library.resolveNow ∈ calls ∧ message = some "dlopen libsandbox failed"
  unavailable : Told "libsandbox unavailable" events ↔
    ∃ path e text, p = .blob path ∧ host.library library = .missing e text
  notFound : Told "sandbox_apply missing" events ↔
    .dlsym entryPoint ∈ calls ∧ message = some "dlsym sandbox_apply failed"
  missing : Told "sandbox_apply missing" events ↔
    ∃ path e e' text, p = .blob path ∧ host.library library = .found e ∧
      host.symbol entryPoint = .missing e' text

def loaderMessages : List String :=
  ["dlopen succeeded", "libsandbox unavailable", "sandbox_apply missing"]

section
variable {host : Host σ}

/-- What follows changes nothing, if it reports no step of the loader and asks nothing of it. -/
theorem Tells.append {p : Profile} {events closing : List Event} {calls : List HostCall}
    {message : Option String} (h : Tells host p events calls message)
    (hclosing : ∀ m ∈ loaderMessages, ¬ Told m closing) (made : List FileCall) :
    Tells host p (events ++ closing) (calls ++ made.map .file) message := by
  have hevents : ∀ m ∈ loaderMessages, Told m (events ++ closing) ↔ Told m events := by
    intro m hm
    rw [told_append, or_iff_left (hclosing m hm)]
  have hopened := hevents "dlopen succeeded" (by decide)
  have hunavailable := hevents "libsandbox unavailable" (by decide)
  have hmissing := hevents "sandbox_apply missing" (by decide)
  obtain ⟨e, rest, hrest, hshown⟩ := h.source
  exact
    { source := ⟨e, rest ++ closing, by rw [hrest, List.cons_append], hshown⟩
      lookedUp := by rw [hopened, h.lookedUp]; simp
      closed := by rw [hopened, h.closed]; simp
      opened := hopened.trans h.opened
      notOpened := by rw [hunavailable, h.notOpened]; simp
      unavailable := hunavailable.trans h.unavailable
      notFound := by rw [hmissing, h.notFound]; simp
      missing := hmissing.trans h.missing }

theorem message_textVerdict (got : Except (Option Errno) Bytes) :
    (textVerdict got).message ≠ some "dlopen libsandbox failed" ∧
      (textVerdict got).message ≠ some "dlsym sandbox_apply failed" := by
  cases got with
  | error e => simp [textVerdict]
  | ok data => cases hd : Text.Utf8.decode? data <;> simp [textVerdict, hd]

/-- A text profile gets nowhere near the loader. -/
theorem tells_text (path : Bytes) (got : Except (Option Errno) Bytes) :
    Tells host (.text path) (events host (some (.text path))) (readingCalls path)
      (textVerdict got).message := by
  have hcalls : ∀ call ∈ readingCalls path, call = .contents path := by
    unfold readingCalls
    split <;> simp
  have hdlsym : .dlsym entryPoint ∉ readingCalls path := fun h => nomatch hcalls _ h
  have hdlclose : .dlclose ∉ readingCalls path := fun h => nomatch hcalls _ h
  obtain ⟨hopen, hlookup⟩ := message_textVerdict got
  constructor
  case source => exact ⟨_, _, rfl, rfl⟩
  all_goals simp [events, told_cons, told_nil, Event.message, hdlsym, hdlclose, hopen, hlookup]

theorem passageEvents_noLibrary {e : Option Errno} {said : Option Bytes}
    (h : host.library library = .missing e said) :
    passageEvents host =
      [.libraryUnavailable (.cannotOpen (Text.Utf8.lossy library) (Library.reasonOf said))] := by
  simp [passageEvents, h]

theorem passageEvents_noEntry {e e' : Option Errno} {said : Option Bytes}
    (h : host.library library = .found e) (h' : host.symbol entryPoint = .missing e' said) :
    passageEvents host = [.libraryOpened library,
      .symbolMissing (.noSymbol entryPoint (Library.reasonOf said))] := by
  simp [passageEvents, entryEvents, h, h']

theorem passageEvents_found {e e' : Option Errno} (h : host.library library = .found e)
    (h' : host.symbol entryPoint = .found e') : passageEvents host = [.libraryOpened library] := by
  simp [passageEvents, entryEvents, h, h']

/-- One case for each end of a blob's way. -/
theorem tells_blob (path : Bytes) (state : σ) :
    Tells host (.blob path) (events host (some (.blob path)))
      ((passage host path state).calls path) (passage host path state).verdict.message := by
  have hsource : ∃ e rest, events host (some (.blob path)) = e :: rest ∧
      e.shown = (.debug, (blob path).announcement, [("path", Text.Utf8.lossy path)]) :=
    ⟨_, _, rfl, rfl⟩
  rcases passage_cases host path state with ⟨e, text, hl, hp⟩ | ⟨e, e', text, hl, hs, hp⟩ |
    ⟨e, e', set, hl, hs, -, hp⟩ | ⟨e, e', data, hl, hs, -, hp⟩
  · constructor
    case source => exact hsource
    all_goals
      simp [events, passageEvents_noLibrary hl, told_cons, told_nil, Event.message, hp,
        Passage.calls, Passage.verdict, hl]
  · constructor
    case source => exact hsource
    all_goals
      simp [events, passageEvents_noEntry hl hs, told_cons, told_nil, Event.message, hp,
        Passage.calls, Passage.verdict, hl, hs]
  · constructor
    case source => exact hsource
    all_goals
      simp [events, passageEvents_found hl hs, told_cons, told_nil, Event.message, hp,
        Passage.calls, Passage.verdict, hl, hs]
  · constructor
    case source => exact hsource
    all_goals
      simp [events, passageEvents_found hl hs, told_cons, told_nil, Event.message, hp,
        Passage.calls, enteringCalls, Passage.verdict, hl, hs]

end

theorem tells_enforce (host : Host σ) (p : Profile) (state : σ) (errno : Errno)
    (pending : Option Bytes) :
    let entered := (enforce host (some p)).run (Session.start state errno pending)
    Tells host p entered.2.events entered.2.calls entered.1.message := by
  intro entered
  have hevents : entered.2.events = events host (some p) := events_enforce host _ (some p)
  rw [hevents]
  cases p with
  | text path =>
    have hrun : entered = _ := run_enforceText host
      { Session.start state errno pending with events := [.enforcing (.text path)] } path
    rw [hrun]
    exact tells_text path (bytesAt host path state)
  | blob path =>
    obtain ⟨hverdict, hcalls⟩ :=
      run_enforce_blob host (Session.start state errno pending) path
    rw [show entered.1 = _ from hverdict, show entered.2.calls = _ from hcalls]
    exact tells_blob path state

end Profile

/-! ## Every run -/

namespace Request

variable (r : Request) (host : Host σ)

theorem mem_eventsAfter {v : Verdict} {e : Event} (h : e ∈ r.eventsAfter v) :
    (∃ rc kind, e = .notEnforced rc kind) ∨ (∃ op syscall, e = .offMenu op syscall) ∨
      ∃ call path, e = .dispatching call path := by
  unfold eventsAfter callEvents MenuCall.events at h
  by_cases hrc : v.rc = 0
  · rw [if_pos hrc] at h
    split at h
    · split at h
      · exact absurd h List.not_mem_nil
      · exact .inr (.inr ⟨_, _, List.mem_singleton.mp h⟩)
    · exact .inr (.inl ⟨_, _, List.mem_singleton.mp h⟩)
  · rw [if_neg hrc] at h
    exact .inl ⟨_, _, List.mem_singleton.mp h⟩

theorem not_told_eventsAfter (v : Verdict) :
    ∀ m ∈ Profile.loaderMessages, ¬ Told m (r.eventsAfter v) := by
  rintro m hm ⟨e, he, rfl⟩
  rcases mem_eventsAfter r he with ⟨_, _, rfl⟩ | ⟨_, _, rfl⟩ | ⟨_, _, rfl⟩ <;>
    simp [Profile.loaderMessages, Event.message] at hm

theorem calls_fulfilWith (enforce : Option Profile → Action σ Verdict) (s : Session σ) :
    ∃ made : List FileCall, ((r.fulfilWith host enforce).run s).2.calls =
      ((enforce (some r.profile)).run s).2.calls ++ made.map .file := by
  by_cases h : ((enforce (some r.profile)).run s).1.rc = 0
  · rw [run_fulfilWith_of_holds r host enforce s h]
    obtain ⟨made, hmade, -⟩ := made_makeCall r host ((enforce (some r.profile)).run s).2
    exact ⟨made, hmade⟩
  · rw [run_fulfilWith_of_not_holds r host enforce s h]
    exact ⟨[], (List.append_nil _).symm⟩

/-- After the events of whatever puts the profile in force there is one event, the one of the record's
status with what the record holds, and none where the path was refused. Through the host's own library
the events begin with the profile and its path, and those of the loader are there exactly where the
calls and the verdict show these steps. -/
theorem log_tells_record :
    (∀ (enforce : Option Profile → Action σ Verdict) (s : Session σ),
      let entered := (enforce (some r.profile)).run s
      let run := (r.fulfilWith host enforce).run s
      ∃ closing, run.2.events = entered.2.events ++ closing ∧ run.1.ToldBy closing) ∧
    ∀ (state : σ) (errno : Errno) (pending : Option Bytes),
      let start := Session.start state errno pending
      let entered := (Profile.enforce host (some r.profile)).run start
      let run := (r.fulfil host).run start
      r.profile.Tells host entered.2.events entered.2.calls entered.1.message ∧
        r.profile.Tells host run.2.events run.2.calls run.1.verdict.message := by
  constructor
  · intro enforce s entered run
    exact ⟨_, events_fulfilWith r host s enforce, toldBy_eventsAfter r host s enforce⟩
  · intro state errno pending start entered run
    have hentered := Profile.tells_enforce host r.profile state errno pending
    refine ⟨hentered, ?_⟩
    obtain ⟨made, hmade⟩ := calls_fulfilWith r host (Profile.enforce host) start
    have hmessage : run.1.verdict.message = entered.1.message := by
      rw [show run.1.verdict = _ from verdict_fulfilWith r host (Profile.enforce host) start]
      rfl
    rw [hmessage, show run.2.calls = _ from hmade,
      show run.2.events = _ from events_fulfilWith r host start (Profile.enforce host)]
    exact hentered.append (not_told_eventsAfter r _) made

end Request

end SandboxProbe
