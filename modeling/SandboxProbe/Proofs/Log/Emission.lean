import SandboxProbe.Proofs.Confinement
import SandboxProbe.Proofs.Library

/-!
# The events of a run

What each operation logs, as a function of the host and of what is asked for: nothing that the host's
state holds, no call on a file and no earlier event has a say in it.
-/

namespace SandboxProbe

variable {σ : Type}

/-! ## Profiles -/

namespace Profile

variable (host : Host σ) (s : Session σ)

def entryEvents : List Event :=
  match host.symbol entryPoint with
  | .missing _ said => [.symbolMissing (.noSymbol entryPoint (Library.reasonOf said))]
  | .found _ => []

def passageEvents : List Event :=
  match host.library library with
  | .missing _ said =>
    [.libraryUnavailable (.cannotOpen (Text.Utf8.lossy library) (Library.reasonOf said))]
  | .found _ => .libraryOpened library :: entryEvents host

def events : Option Profile → List Event
  | none => []
  | some (.text path) => [.enforcing (.text path)]
  | some (.blob path) => .enforcing (.blob path) :: passageEvents host

theorem events_enforceText (path : Bytes) :
    ((enforceText host path).run s).2.events = s.events := by
  rw [run_enforceText]

theorem events_enforceThrough (path : Bytes) :
    ((enforceThrough host path).run s).2.events = s.events ++ entryEvents host := by
  unfold entryEvents
  cases hs : host.symbol entryPoint with
  | missing e said => rw [run_enforceThrough_noEntry host s hs]
  | found e =>
    cases hb : bytesAt host path s.state with
    | error e' =>
      rw [run_enforceThrough_noBytes host s hs hb]
      exact (List.append_nil _).symm
    | ok data =>
      rw [run_enforceThrough_ok host s hs hb]
      exact (List.append_nil _).symm

theorem events_enforceBlob (path : Bytes) :
    ((enforceBlob host path).run s).2.events = s.events ++ passageEvents host := by
  unfold passageEvents
  cases hl : host.library library with
  | missing e said => rw [run_enforceBlob_noLibrary host s hl]
  | found e =>
    rw [run_enforceBlob_found host s hl, Host.run_closeLibrary]
    simp only [events_enforceThrough, opened, List.append_assoc, List.singleton_append]

theorem events_enforce (p : Option Profile) :
    ((enforce host p).run s).2.events = s.events ++ events host p := by
  rcases p with _ | path | path
  · exact (List.append_nil _).symm
  · exact events_enforceText host { s with events := s.events ++ [.enforcing (.text path)] } path
  · refine (events_enforceBlob host
      { s with events := s.events ++ [.enforcing (.blob path)] } path).trans ?_
    simp only [events, List.append_assoc, List.singleton_append]

end Profile

/-! ## Libraries -/

namespace Library

variable (host : Host σ) (s : Session σ)

theorem events_lookUp (name : String) : ((lookUp host name).run s).2.events = s.events := by
  cases hn : name.toList.contains '\x00' with
  | true => simp only [lookUp, hn]; rfl
  | false =>
    cases h : host.symbol name with
    | found e => rw [run_lookUp_found host s hn h]; rfl
    | missing e text => rw [run_lookUp_missing host s hn h]; rfl

theorem events_lookUpAll (names : List String) :
    ((lookUpAll host names).run s).2.events = s.events := by
  induction names generalizing s with
  | nil => rfl
  | cons name names ih => exact (ih _).trans (events_lookUp host s name)

/-- The events of opening a library, looking symbols up and closing it. -/
def events (path : Bytes) : List Event :=
  if holdsNul path then []
  else
    match host.library path with
    | .found _ => [.libraryOpened path]
    | .missing _ _ => []

theorem events_survey (path : Bytes) (flags : Int32) (names : List String) :
    ((survey host path flags names).run s).2.events = s.events ++ events host path := by
  unfold events
  cases hn : holdsNul path with
  | true =>
    rw [run_survey_nul host s flags names hn]
    exact (List.append_nil _).symm
  | false =>
    cases h : host.library path with
    | missing e text =>
      rw [run_survey_missing host s flags names hn h]
      exact (List.append_nil _).symm
    | found e =>
      rw [run_survey_opened host s flags names hn h, Host.run_closeLibrary]
      exact events_lookUpAll host (opened s path flags e) names

end Library

/-! ## Metadata calls -/

theorem events_onDescriptor (host : Host σ) (s : Session σ) (call : MenuCall) (path : Bytes)
    (access : Access) (request : Int32 → FileCall) :
    ((onDescriptor host call path access request).run s).2.events = s.events := by
  by_cases h : (Plan.openReply host path s.state access).1.rc = -1
  · rw [run_onDescriptor_unopened call request h]; rfl
  · rw [run_onDescriptor_opened call request h]; rfl

namespace MenuCall

def events (path : Bytes) (call : MenuCall) : List Event :=
  if Library.holdsNul path then [] else [.dispatching call path]

theorem events_issueCalls (host : Host σ) (s : Session σ) (mode : UInt32) (path : Bytes)
    (call : MenuCall) : ((call.issueCalls host mode path).run s).2.events = s.events := by
  cases call with
  | getattrlist => rfl
  | setattrlist => rfl
  | fstat | fchmod | futimes | fchown => exact events_onDescriptor host s _ path _ _
  | _ => simp only [issueCalls, run_onPath]; rfl

theorem events_issue (host : Host σ) (s : Session σ) (mode : UInt32) (path : Bytes)
    (call : MenuCall) :
    ((call.issue host mode path).run s).2.events = s.events ++ call.events path := by
  unfold events
  cases hn : Library.holdsNul path with
  | true =>
    rw [run_issue_nul host s hn]
    exact (List.append_nil _).symm
  | false =>
    simp only [issue, hn]
    exact events_issueCalls host _ mode path call

end MenuCall

/-! ## Requests -/

namespace Request

variable (r : Request) (host : Host σ) (s : Session σ)

def callEvents : List Event :=
  match r.op.call? r.syscall with
  | some call => call.events (Text.Utf8.encode r.path)
  | none => [.offMenu r.op r.syscall]

theorem events_makeCall : ((r.makeCall host).run s).2.events = s.events ++ r.callEvents := by
  unfold makeCall callEvents
  cases r.op.call? r.syscall with
  | none => rfl
  | some call => exact MenuCall.events_issue host s r.mode _ call

/-- The events behind a verdict. -/
def eventsAfter (v : Verdict) : List Event :=
  if v.rc = 0 then r.callEvents else [.notEnforced v.rc v.kind]

theorem events_fulfilWith (enforce : Option Profile → Action σ Verdict) :
    ((r.fulfilWith host enforce).run s).2.events =
      ((enforce (some r.profile)).run s).2.events ++
        r.eventsAfter ((enforce (some r.profile)).run s).1 := by
  unfold eventsAfter
  by_cases h : ((enforce (some r.profile)).run s).1.rc = 0
  · rw [run_fulfilWith_of_holds r host enforce s h, if_pos h]
    exact events_makeCall r host _
  · rw [run_fulfilWith_of_not_holds r host enforce s h, if_neg h]

end Request

end SandboxProbe
