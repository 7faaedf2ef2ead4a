import SandboxProbe.Proofs.CommandLine.Acceptance
import SandboxProbe.Proofs.Confinement

/-!
# What a record says about a run

`fulfilWith_classifies`: the status of a record is decided by the verdict, the menu, the path and the
replies to the calls that were needed, in this order, and the other fields follow from the status.
-/

namespace SandboxProbe

variable {σ : Type}

/-- The call that is asked for is on the menu, and goes through on the state it starts from. -/
def Request.Succeeds (r : Request) (host : Host σ) (state : σ) : Prop :=
  ∃ call, r.op.call? r.syscall = some call ∧
    (call.plan host r.mode (Text.Utf8.encode r.path)).Succeeds host (Text.Utf8.encode r.path) state

/-- A record on a request under a verdict, where `succeeds` tells whether the call went through. -/
structure Record.Classifies (record : Record) (r : Request) (v : Verdict) (succeeds : Prop) :
    Prop where
  op : record.op = r.op.word
  path : record.path = r.path
  syscall : record.syscall = r.syscall
  payload : record.payload = r.payload.map PayloadKind.word
  verdict : record.verdict = ⟨v.rc, v.errno, v.errno.map Errno.name, v.message, v.kind⟩
  notConfined_iff : record.status = .notConfined ↔ v.rc ≠ 0
  offMenu_iff : record.status = .offMenu ↔ v.rc = 0 ∧ r.syscall ∉ r.op.names
  ok_iff : record.status = .ok ↔
    v.rc = 0 ∧ r.syscall ∈ r.op.names ∧ '\x00' ∉ r.path.toList ∧
      r.syscall ≠ "getattrlist" ∧ r.syscall ≠ "setattrlist" ∧ succeeds
  failed_iff : record.status = .failed ↔
    v.rc = 0 ∧ r.syscall ∈ r.op.names ∧
      ¬ ('\x00' ∉ r.path.toList ∧ r.syscall ≠ "getattrlist" ∧ r.syscall ≠ "setattrlist" ∧ succeeds)
  whenNotConfined : record.status = .notConfined →
    record.errno = none ∧ record.errnoName = none ∧
      record.message = some ("sandbox apply rc " ++ toString v.rc.toInt)
  whenOffMenu : record.status = .offMenu →
    record.errno = none ∧ record.errnoName = none ∧
      record.message = some ("unsupported " ++ r.op.word ++ " syscall " ++ r.syscall)
  whenOk : record.status = .ok →
    record.errno = none ∧ record.errnoName = none ∧ record.message = some (r.syscall ++ "-ok")
  whenFailed : record.status = .failed →
    ∃ e, record.errno = some e ∧ record.errnoName = some e.name

namespace Request

variable (r : Request) (host : Host σ) (s : Session σ)

/-- How a call that is on the menu ends: done if it succeeds on a path without NUL, else failed. -/
theorem outcome_makeCall (h : r.syscall ∈ r.op.names) :
    ∃ call, call.name = r.syscall ∧
      ((((r.makeCall host).run s).1 = .done call ∧
          '\x00' ∉ r.path.toList ∧ r.Succeeds host s.state) ∨
        (¬ ('\x00' ∉ r.path.toList ∧ r.Succeeds host s.state) ∧
          ∃ e, ((r.makeCall host).run s).1.report.status = .failed ∧
            ((r.makeCall host).run s).1.report.errno = some e)) := by
  obtain ⟨call, hcall⟩ := call?_of_mem_names h
  refine ⟨call, name_of_call? hcall, ?_⟩
  have hrun : (r.makeCall host).run s =
      (call.issue host r.mode (Text.Utf8.encode r.path)).run s := by
    simp only [makeCall, hcall]
  rw [hrun]
  have hiff : r.Succeeds host s.state ↔
      (call.plan host r.mode (Text.Utf8.encode r.path)).Succeeds host (Text.Utf8.encode r.path)
        s.state := by
    constructor
    · rintro ⟨call', h', hs⟩
      rw [hcall] at h'
      exact Option.some.inj h' ▸ hs
    · exact fun hs => ⟨call, hcall, hs⟩
  by_cases hnul : '\x00' ∈ r.path.toList
  · rw [run_issue_nul host s ((Text.Utf8.holdsNul_encode r.path).mpr hnul)]
    exact .inr ⟨fun hn => hn.1 hnul, .invalid, rfl, rfl⟩
  · have hn : Library.holdsNul (Text.Utf8.encode r.path) = false := by
      rw [← Bool.not_eq_true, Text.Utf8.holdsNul_encode]; exact hnul
    rw [outcome_issue host s hn]
    rcases Plan.outcome_cases host (Text.Utf8.encode r.path) s.state call
      (call.plan host r.mode (Text.Utf8.encode r.path)) with hd | ⟨e, hf⟩ | ⟨e, hf⟩
    · exact .inl ⟨hd, hnul, hiff.mpr ((Plan.outcome_eq_done ..).mp hd)⟩
    · refine .inr ⟨fun hs => ?_, e, by rw [hf]; rfl, by rw [hf]; rfl⟩
      rw [(Plan.outcome_eq_done ..).mpr (hiff.mp hs.2)] at hf
      cases hf
    · refine .inr ⟨fun hs => ?_, e, by rw [hf]; rfl, by rw [hf]; rfl⟩
      rw [(Plan.outcome_eq_done ..).mpr (hiff.mp hs.2)] at hf
      cases hf

theorem not_succeeds_of_attributes {state : σ}
    (h : r.syscall = "getattrlist" ∨ r.syscall = "setattrlist") : ¬ r.Succeeds host state := by
  rintro ⟨call, hcall, hs⟩
  have hname := name_of_call? hcall
  cases call with
  | getattrlist => exact hs
  | setattrlist => exact hs
  | _ => rcases h with h | h <;> (rw [h] at hname; exact absurd hname (by decide))

theorem classifies_notConfined {v : Verdict} {succeeds : Prop} (h : v.rc ≠ 0) :
    (Record.ofReport r.target v v.report).Classifies r v succeeds where
  op := rfl
  path := rfl
  syscall := rfl
  payload := rfl
  verdict := rfl
  notConfined_iff := by simp [Record.ofReport, Verdict.report, h]
  offMenu_iff := by simp [Record.ofReport, Verdict.report, h]
  ok_iff := by simp [Record.ofReport, Verdict.report, h]
  failed_iff := by simp [Record.ofReport, Verdict.report, h]
  whenNotConfined _ := ⟨rfl, rfl, rfl⟩
  whenOffMenu h' := by simp [Record.ofReport, Verdict.report] at h'
  whenOk h' := by simp [Record.ofReport, Verdict.report] at h'
  whenFailed h' := by simp [Record.ofReport, Verdict.report] at h'

theorem classifies_offMenu {v : Verdict} {succeeds : Prop} (h : v.rc = 0)
    (hm : r.syscall ∉ r.op.names) :
    (Record.ofReport r.target v (Outcome.offMenu r.op r.syscall).report).Classifies r v
      succeeds where
  op := rfl
  path := rfl
  syscall := rfl
  payload := rfl
  verdict := rfl
  notConfined_iff := by simp [Record.ofReport, Outcome.report, h]
  offMenu_iff := by simp [Record.ofReport, Outcome.report, h, hm]
  ok_iff := by simp [Record.ofReport, Outcome.report, hm]
  failed_iff := by simp [Record.ofReport, Outcome.report, hm]
  whenNotConfined h' := by simp [Record.ofReport, Outcome.report] at h'
  whenOffMenu _ := ⟨rfl, rfl, rfl⟩
  whenOk h' := by simp [Record.ofReport, Outcome.report] at h'
  whenFailed h' := by simp [Record.ofReport, Outcome.report] at h'

theorem classifies_done {v : Verdict} {succeeds : Prop} {call : MenuCall} (h : v.rc = 0)
    (hm : r.syscall ∈ r.op.names) (hname : call.name = r.syscall)
    (hs : '\x00' ∉ r.path.toList ∧ r.syscall ≠ "getattrlist" ∧ r.syscall ≠ "setattrlist" ∧
      succeeds) :
    (Record.ofReport r.target v (Outcome.done call).report).Classifies r v succeeds where
  op := rfl
  path := rfl
  syscall := rfl
  payload := rfl
  verdict := rfl
  notConfined_iff := by simp [Record.ofReport, Outcome.report, h]
  offMenu_iff := by simp [Record.ofReport, Outcome.report, hm]
  ok_iff := by simpa [Record.ofReport, Outcome.report, h, hm] using hs
  failed_iff := by
    simp only [Record.ofReport, Outcome.report, reduceCtorEq, false_iff]
    exact fun hall => hall.2.2 hs
  whenNotConfined h' := by simp [Record.ofReport, Outcome.report] at h'
  whenOffMenu h' := by simp [Record.ofReport, Outcome.report] at h'
  whenOk _ := ⟨rfl, rfl, by rw [← hname]; rfl⟩
  whenFailed h' := by simp [Record.ofReport, Outcome.report] at h'

theorem classifies_failed {v : Verdict} {succeeds : Prop} {report : Report} {e : Errno}
    (h : v.rc = 0) (hm : r.syscall ∈ r.op.names) (hf : report.status = .failed)
    (he : report.errno = some e)
    (hs : ¬ ('\x00' ∉ r.path.toList ∧ r.syscall ≠ "getattrlist" ∧ r.syscall ≠ "setattrlist" ∧
      succeeds)) :
    (Record.ofReport r.target v report).Classifies r v succeeds where
  op := rfl
  path := rfl
  syscall := rfl
  payload := rfl
  verdict := rfl
  notConfined_iff := by simp [Record.ofReport, hf, h]
  offMenu_iff := by simp [Record.ofReport, hf, hm]
  ok_iff := by
    simp only [Record.ofReport, hf, reduceCtorEq, false_iff]
    exact fun hall => hs hall.2.2
  failed_iff := by
    simp only [Record.ofReport, hf, true_iff]
    exact ⟨h, hm, hs⟩
  whenNotConfined h' := by simp [Record.ofReport, hf] at h'
  whenOffMenu h' := by simp [Record.ofReport, hf] at h'
  whenOk h' := by simp [Record.ofReport, hf] at h'
  whenFailed _ := ⟨e, he, by simp [Record.ofReport, he]⟩

/-- A command line that names no call asks for the first one on the menu. -/
theorem defaultCall_of_absent {argv : List Bytes} {items : List CommandLine.Item}
    (line : CommandLine.Line argv items) (accepted : CommandLine.parse argv = .ok r)
    (absent : ¬CommandLine.Occurs .syscall items) : r.syscall = r.op.defaultCall.name := by
  have none := CommandLine.lastValue_eq_none_iff.mpr absent
  rcases ((CommandLine.parse_line line r).mp accepted).syscall with given | ⟨_, default⟩
  · rw [none] at given
    cases given
  · exact default

/-- What a record says about a run. Every accepted command line that names no call is on the menu. -/
theorem fulfilWith_classifies (enforce : Option Profile → Action σ Verdict) :
    let entered := (enforce (some r.profile)).run s
    ((r.fulfilWith host enforce).run s).1.Classifies r entered.1
        (r.Succeeds host entered.2.state) ∧
      ∀ argv items, CommandLine.Line argv items → CommandLine.parse argv = .ok r →
        ¬CommandLine.Occurs .syscall items →
        ((r.fulfilWith host enforce).run s).1.status ≠ .offMenu := by
  intro entered
  have hc : ((r.fulfilWith host enforce).run s).1.Classifies r entered.1
      (r.Succeeds host entered.2.state) := by
    by_cases h : entered.1.rc = 0
    · rw [run_fulfilWith_of_holds r host enforce s h]
      change (Record.ofReport r.target entered.1
        ((r.makeCall host).run entered.2).1.report).Classifies r entered.1 _
      by_cases hm : r.syscall ∈ r.op.names
      · obtain ⟨call, hname, ⟨hd, hn, hs⟩ | ⟨hs, e, hf, he⟩⟩ :=
          outcome_makeCall r host entered.2 hm
        · rw [hd]
          refine classifies_done r h hm hname ⟨hn, fun ha => ?_, fun ha => ?_, hs⟩
          · exact not_succeeds_of_attributes r host (.inl ha) hs
          · exact not_succeeds_of_attributes r host (.inr ha) hs
        · exact classifies_failed r h hm hf he fun hall => hs ⟨hall.1, hall.2.2.2⟩
      · rw [run_makeCall_offMenu r host _ hm]
        exact classifies_offMenu r h hm
    · rw [run_fulfilWith_of_not_holds r host enforce s h]
      exact classifies_notConfined r h
  refine ⟨hc, fun argv items line accepted absent hoff => ?_⟩
  refine (hc.offMenu_iff.mp hoff).2 ?_
  rw [r.defaultCall_of_absent line accepted absent]
  exact defaultCall_mem_names r.op

end Request

end SandboxProbe
