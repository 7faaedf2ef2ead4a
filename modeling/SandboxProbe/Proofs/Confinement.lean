import SandboxProbe.Host.Script
import SandboxProbe.Proofs.Issue
import SandboxProbe.Proofs.Passage

/-!
# Nothing runs unconfined

`fulfil_confined`: in the calls of a run, everything on the file system comes after the sandbox took
exactly the profile's bytes and after its library was closed. A verdict that does not hold, from
whatever puts profiles in force, is the end of the run.
-/

namespace SandboxProbe

variable {σ : Type}

/-- A call on the file system, which a sandbox is there to confine. -/
def HostCall.OnFile : HostCall → Prop
  | .file _ => True
  | _ => False

namespace Profile

variable (host : Host σ) (s : Session σ)

/-- The run of `enforce` that ends in `v` and adds `new` leaves no profile in force, and calls on no
file. -/
def Refused (v : Verdict) (new : List HostCall) : Prop :=
  v.rc ≠ 0 ∧ ∀ call ∈ new, ¬ call.OnFile

/-- The run of `enforce` that ends in `v` and adds `new` hands the bytes of a blob over, and the
sandbox takes them. -/
def Entered (p : Profile) (state : σ) (v : Verdict) (new : List HostCall) : Prop :=
  ∃ path data, p = .blob path ∧ host.contents path state = .ok data ∧
    (host.sandboxApply (.ofBytes data)).rc = 0 ∧ v.rc = 0 ∧ new = enteringCalls path data

theorem not_onFile_readingCalls (path : Bytes) : ∀ call ∈ readingCalls path, ¬ call.OnFile := by
  unfold readingCalls
  split <;> simp [HostCall.OnFile]

theorem enforceText_refused (path : Bytes) :
    ∃ new, ((enforceText host path).run s).2.calls = s.calls ++ new ∧
      Refused ((enforceText host path).run s).1 new := by
  rw [run_enforceText]
  exact ⟨readingCalls path, rfl, textVerdict_rc_ne_zero _, not_onFile_readingCalls path⟩

theorem enforceBlob_refused_or_entered (path : Bytes) :
    ∃ new, ((enforceBlob host path).run s).2.calls = s.calls ++ new ∧
      (Refused ((enforceBlob host path).run s).1 new ∨
        Entered host (.blob path) s.state ((enforceBlob host path).run s).1 new) := by
  obtain ⟨hv, hc⟩ := run_enforceBlob host s path
  refine ⟨_, hc, ?_⟩
  rw [hv]
  cases hp : passage host path s.state with
  | noLibrary e => exact .inl ⟨by simp [Passage.verdict], by simp [Passage.calls, HostCall.OnFile]⟩
  | noEntry e e' => exact .inl ⟨by simp [Passage.verdict], by simp [Passage.calls, HostCall.OnFile]⟩
  | noBytes e =>
    refine .inl ⟨by simp [Passage.verdict], fun call hcall => ?_⟩
    simp only [Passage.calls, List.mem_append, List.mem_cons, List.not_mem_nil, or_false] at hcall
    rcases hcall with ((rfl | rfl) | hcall) | rfl
    · exact id
    · exact id
    · exact not_onFile_readingCalls path call hcall
    · exact id
  | handedOver data reply =>
    obtain ⟨hdata, rfl⟩ := passage_eq_handedOver hp
    by_cases hrc : (host.sandboxApply (.ofBytes data)).rc = 0
    · exact .inr ⟨path, data, rfl, hdata, hrc, hrc, rfl⟩
    · exact .inl ⟨hrc, by simp [Passage.calls, enteringCalls, HostCall.OnFile]⟩

theorem enforce_refused_or_entered (p : Profile) :
    ∃ new, ((enforce host (some p)).run s).2.calls = s.calls ++ new ∧
      (Refused ((enforce host (some p)).run s).1 new ∨
        Entered host p s.state ((enforce host (some p)).run s).1 new) := by
  cases p with
  | text path =>
    obtain ⟨new, hc, hr⟩ := enforceText_refused host
      { s with events := s.events ++ [.enforcing (.text path)] } path
    exact ⟨new, hc, .inl hr⟩
  | blob path =>
    exact enforceBlob_refused_or_entered host
      { s with events := s.events ++ [.enforcing (.blob path)] } path

end Profile

/-! ## Requests -/

namespace Request

variable (r : Request) (host : Host σ) (enforce : Option Profile → Action σ Verdict)
  (s : Session σ)

theorem run_fulfilWith_of_holds (h : ((enforce (some r.profile)).run s).1.rc = 0) :
    (r.fulfilWith host enforce).run s =
      let entered := (enforce (some r.profile)).run s
      let called := (r.makeCall host).run entered.2
      (.ofReport r.target entered.1 called.1.report, called.2) := by
  simp only [fulfilWith, Action.run_bind, Verdict.holds, h, decide_true, ite_true]
  rfl

theorem run_fulfilWith_of_not_holds (h : ((enforce (some r.profile)).run s).1.rc ≠ 0) :
    (r.fulfilWith host enforce).run s =
      let refused := (enforce (some r.profile)).run s
      (.ofReport r.target refused.1 refused.1.report,
        { refused.2 with
          events := refused.2.events ++ [.notEnforced refused.1.rc refused.1.kind] }) := by
  simp only [fulfilWith, Action.run_bind, Verdict.holds, h, decide_false]
  rfl

theorem verdict_fulfilWith :
    ((r.fulfilWith host enforce).run s).1.verdict = ((enforce (some r.profile)).run s).1.record := by
  by_cases h : ((enforce (some r.profile)).run s).1.rc = 0
  · rw [run_fulfilWith_of_holds r host enforce s h]; rfl
  · rw [run_fulfilWith_of_not_holds r host enforce s h]; rfl

theorem run_makeCall_offMenu (h : r.syscall ∉ r.op.names) :
    (r.makeCall host).run s =
      (.offMenu r.op r.syscall, { s with events := s.events ++ [.offMenu r.op r.syscall] }) := by
  simp only [makeCall, call?_eq_none_iff.mpr h]
  rfl

theorem made_makeCall : ∃ made, s.Made host ((r.makeCall host).run s).2 made := by
  unfold makeCall
  split
  · exact ⟨_, made_issue host s _ _ _⟩
  · exact ⟨[], .nil rfl rfl⟩

theorem calls_fulfil_of_refused {new : List HostCall}
    (hc : ((Profile.enforce host (some r.profile)).run s).2.calls = s.calls ++ new)
    (h : Profile.Refused ((Profile.enforce host (some r.profile)).run s).1 new) :
    ((r.fulfil host).run s).2.calls = s.calls ++ new := by
  rw [fulfil, run_fulfilWith_of_not_holds r host _ s h.1]
  exact hc

theorem calls_fulfil_of_entered {new : List HostCall}
    (hc : ((Profile.enforce host (some r.profile)).run s).2.calls = s.calls ++ new)
    (h : Profile.Entered host r.profile s.state ((Profile.enforce host (some r.profile)).run s).1
      new) :
    ∃ made, ((r.fulfil host).run s).2.calls = s.calls ++ new ++ made ∧
      (∀ call ∈ made, call.OnFile) ∧ (r.syscall ∉ r.op.names → made = []) := by
  obtain ⟨_, _, -, -, -, hrc, -⟩ := h
  rw [fulfil, run_fulfilWith_of_holds r host _ s hrc]
  by_cases hm : r.syscall ∈ r.op.names
  · obtain ⟨made, hmade, -⟩ :=
      made_makeCall r host ((Profile.enforce host (some r.profile)).run s).2
    refine ⟨made.map .file, by rw [hmade, hc], fun call hcall => ?_, fun hn => absurd hm hn⟩
    obtain ⟨request, -, rfl⟩ := List.mem_map.mp hcall
    trivial
  · exact ⟨[], by simp [run_makeCall_offMenu r host _ hm, hc], by simp, fun _ => rfl⟩

/-- What comes before an element of the second part begins with all of the first part. -/
theorem prefix_of_split {α : Type} {entering made before after : List α} {x : α}
    (hx : x ∉ entering) (h : entering ++ made = before ++ x :: after) : entering <+: before := by
  rcases split_append h with ⟨u, hu⟩ | ⟨u, rfl, -⟩
  · exact absurd (by simp [hu]) hx
  · exact List.prefix_append _ _

/-- Nothing runs unconfined: a call on the file system comes after the sandbox took the bytes of
the profile and after its library was closed. There is none where no profile is in force, which is
so for every text profile, nor where the menu lacks the name. Nothing follows a verdict that does not
hold, whatever gave it. -/
theorem fulfil_confined (state : σ) (errno : Errno) (pending : Option Bytes) :
    let start := Session.start state errno pending
    let record := ((r.fulfil host).run start).1
    let calls := ((r.fulfil host).run start).2.calls
    (∀ before call after, calls = before ++ .file call :: after →
      ∃ path data, r.profile = .blob path ∧ host.contents path state = .ok data ∧
        (host.sandboxApply (.ofBytes data)).rc = 0 ∧ Profile.enteringCalls path data <+: before) ∧
    (record.verdict.rc ≠ 0 → ∀ call, .file call ∉ calls) ∧
    (∀ path, r.profile = .text path → record.verdict.rc ≠ 0) ∧
    (r.syscall ∉ r.op.names → ∀ call, .file call ∉ calls) ∧
    ∀ (enforce : Option Profile → Action σ Verdict) (s : Session σ),
      ((enforce (some r.profile)).run s).1.rc ≠ 0 →
        ((r.fulfilWith host enforce).run s).2.calls = ((enforce (some r.profile)).run s).2.calls := by
  intro start record calls
  have hrc : record.verdict.rc = ((Profile.enforce host (some r.profile)).run start).1.rc := by
    rw [show record.verdict = _ from verdict_fulfilWith r host _ start]
    rfl
  have hwith : ∀ (enforce : Option Profile → Action σ Verdict) (s : Session σ),
      ((enforce (some r.profile)).run s).1.rc ≠ 0 →
        ((r.fulfilWith host enforce).run s).2.calls =
          ((enforce (some r.profile)).run s).2.calls := by
    intro enforce s h
    rw [run_fulfilWith_of_not_holds r host enforce s h]
  obtain ⟨new, hnew, href | hent⟩ := Profile.enforce_refused_or_entered host start r.profile
  · have hcalls : calls = new := calls_fulfil_of_refused r host start hnew href
    have hnone : ∀ call, HostCall.file call ∉ calls := by
      intro call hc
      rw [hcalls] at hc
      exact href.2 _ hc trivial
    refine ⟨fun before call after h => ?_, fun _ => hnone, fun _ _ => ?_, fun _ => hnone, hwith⟩
    · exact absurd (by simp [h]) (hnone call)
    · rw [hrc]; exact href.1
  · obtain ⟨made, hmade, -, hmenu⟩ := calls_fulfil_of_entered r host start hnew hent
    obtain ⟨path, data, hp, hdata, happly, hzero, rfl⟩ := hent
    have hcalls : calls = Profile.enteringCalls path data ++ made := hmade
    have hfile : ∀ call, HostCall.file call ∉ Profile.enteringCalls path data := by
      intro call hc
      simp [Profile.enteringCalls] at hc
    refine ⟨fun before call after h => ?_, fun h => ?_, fun path' h => ?_, fun h call hc => ?_,
      hwith⟩
    · exact ⟨path, data, hp, hdata, happly, prefix_of_split (hfile call) (hcalls ▸ h)⟩
    · exact absurd (hrc.trans hzero) h
    · rw [hp] at h; cases h
    · rw [hcalls, hmenu h, List.append_nil] at hc
      exact hfile call hc

/-- On a host that grants everything the call on a descriptor is made, behind the whole way into the
sandbox. -/
example :
    let script : Script :=
      { errno := .zero, pending := none, clock := ⟨0, 0⟩, owner := ⟨0, 0⟩, fd := 3
        reply := fun _ => .ok, file := fun _ => .ok [1, 2]
        library := .found none, symbol := fun _ => .found none }
    let request : Request := ⟨.blob [0x70], .write, "f", "fchmod", none, 0o640⟩
    (script.run request.fulfil).2.calls =
      Profile.enteringCalls [0x70] [1, 2] ++
        [.file (.openFile [0x66] .write), .file (.fchmod 3 0o640), .file (.close 3)] := by
  decide

end Request

end SandboxProbe
