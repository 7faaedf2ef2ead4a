import SandboxProbe.Host.Script
import SandboxProbe.Proofs.Issue

/-!
# The call that decides an outcome

An outcome is decided by one call: the open where an entry needs a descriptor and gets none, else
the metadata call itself. `issue_decided` says how, and that two hosts on which both of them end alike
give the same outcome, whatever else the hosts do and whatever `errno` was before.
-/

namespace SandboxProbe

variable {σ τ : Type}

def Reply.result (reply : Reply) : Except Errno Unit :=
  if reply.rc = 0 then .ok () else .error (reply.errno.getD .zero)

/-- How an open ended. It fails by -1 alone: every other number is a descriptor. -/
def Reply.opened (reply : Reply) : Except Errno Unit :=
  if reply.rc = -1 then .error (reply.errno.getD .zero) else .ok ()

namespace Plan

variable (host : Host σ) (path : Bytes) (state : σ)

def opening : Plan → Except Errno Unit
  | .nothing => .ok ()
  | .onPath _ => .ok ()
  | .onDescriptor access _ => (openReply host path state access).1.opened

/-- How the metadata call of a plan ends, made on the descriptor where the plan needs one. -/
def calling : Plan → Except Errno Unit
  | .nothing => .error .unsupported
  | .onPath request => (host.file request state).1.result
  | .onDescriptor access request =>
    (host.file (request (openReply host path state access).1.rc)
      (openReply host path state access).2).1.result

def decided (call : MenuCall) : Except Errno Unit → Except Errno Unit → Outcome
  | .error e, _ => .openFailed e
  | .ok (), .error e => .failed e
  | .ok (), .ok () => .done call

theorem settled_eq_decided (call : MenuCall) (reply : Reply) :
    settled call reply = decided call (.ok ()) reply.result := by
  unfold settled Reply.result
  by_cases h : reply.rc = 0
  · simp [h, decided]
  · simp [h, decided]

theorem outcome_eq_decided (call : MenuCall) (plan : Plan) :
    plan.outcome host path state call =
      decided call (plan.opening host path state) (plan.calling host path state) := by
  cases plan with
  | nothing => rfl
  | onPath request => exact settled_eq_decided call _
  | onDescriptor access request =>
    by_cases h : (openReply host path state access).1.rc = -1
    · rw [outcome_unopened call h]
      simp [opening, Reply.opened, h, decided]
    · rw [outcome_opened call h, settled_eq_decided]
      simp [opening, Reply.opened, h, calling]

end Plan

/-- On both hosts the open of an entry ends alike, and so does the metadata call if it is made. -/
structure MenuCall.EndsAlike (call : MenuCall) (mode : UInt32) (path : Bytes)
    (host : Host σ) (state : σ) (other : Host τ) (state' : τ) : Prop where
  opening : (call.plan host mode path).opening host path state =
    (call.plan other mode path).opening other path state'
  calling : (call.plan host mode path).opening host path state = .ok () →
    (call.plan host mode path).calling host path state =
      (call.plan other mode path).calling other path state'

theorem Plan.decided_congr (call : MenuCall) {o o' c c' : Except Errno Unit} (ho : o = o')
    (hc : o = .ok () → c = c') : decided call o c = decided call o' c' := by
  subst ho
  cases o with
  | error e => rfl
  | ok u => rw [hc rfl]

/-- The open decides the outcome where it fails, and else the metadata call does: a failure shows
exactly the number that the deciding call set, or 0. Nothing else has a say in it. -/
theorem issue_decided (host : Host σ) (s : Session σ) (mode : UInt32) (path : Bytes)
    (call : MenuCall) (hn : Library.holdsNul path = false) :
    let plan := call.plan host mode path
    let outcome := ((call.issue host mode path).run s).1
    (∀ e, plan.opening host path s.state = .error e →
      outcome.report = ⟨.failed, some e, some "open failed"⟩) ∧
    (∀ e, plan.opening host path s.state = .ok () → plan.calling host path s.state = .error e →
      outcome.report = ⟨.failed, some e, some e.text⟩) ∧
    (plan.opening host path s.state = .ok () → plan.calling host path s.state = .ok () →
      outcome.report = ⟨.ok, none, some (call.name ++ "-ok")⟩) ∧
    (call = .getattrlist ∨ call = .setattrlist →
      outcome.report = ⟨.failed, some .unsupported, some Errno.unsupported.text⟩) ∧
    ∀ (τ : Type) (other : Host τ) (t : Session τ),
      call.EndsAlike mode path host s.state other t.state →
        ((call.issue other mode path).run t).1 = outcome := by
  intro plan outcome
  have hout : outcome = Plan.decided call (plan.opening host path s.state)
      (plan.calling host path s.state) := by
    rw [← Plan.outcome_eq_decided]
    exact outcome_issue host s hn
  refine ⟨?_, ?_, ?_, ?_, ?_⟩
  · intro e ho
    rw [hout, ho]
    rfl
  · intro e ho hc
    rw [hout, ho, hc]
    rfl
  · intro ho hc
    rw [hout, ho, hc]
    rfl
  · intro ha
    rcases ha with rfl | rfl
    · rw [hout]; rfl
    · rw [hout]; rfl
  · intro τ other t h
    rw [outcome_issue other t hn, Plan.outcome_eq_decided, hout]
    exact (Plan.decided_congr call h.opening h.calling).symm

/-- A change of mode that fails and sets no number, on a host whose open leaves 5 and on one with
another clock, owner, descriptor and `errno` whose close fails. -/
theorem issue_decided_fchmod :
    let reply (left : Option Errno) (close : Reply) : CallName → Reply := fun name =>
      match name with
      | .openFile => ⟨0, left⟩
      | .fchmod => ⟨-1, none⟩
      | .close => close
      | _ => .ok
    let one : Script :=
      { errno := .zero, pending := none, clock := ⟨1700000000, 0⟩, owner := ⟨501, 20⟩, fd := 1000
        reply := reply (some ⟨5⟩) .ok, file := fun _ => .error .noEntry
        library := .found none, symbol := fun _ => .found none }
    let two : Script :=
      { errno := ⟨13⟩, pending := none, clock := ⟨-1, 0⟩, owner := ⟨0, 0⟩, fd := 7
        reply := reply none (.fail ⟨9⟩), file := fun _ => .error .noEntry
        library := .found none, symbol := fun _ => .found none }
    Library.holdsNul [0x66] = false ∧
      MenuCall.fchmod.EndsAlike 0o640 [0x66] one.host () two.host () ∧
      (one.run (MenuCall.fchmod.issue · 0o640 [0x66])).1.report =
        ⟨.failed, some .zero, some Errno.zero.text⟩ ∧
      (two.run (MenuCall.fchmod.issue · 0o640 [0x66])).1 =
        (one.run (MenuCall.fchmod.issue · 0o640 [0x66])).1 := by
  intro reply one two
  have hn : Library.holdsNul [0x66] = false := by decide
  have alike : MenuCall.fchmod.EndsAlike 0o640 [0x66] one.host () two.host () :=
    ⟨rfl, fun _ => rfl⟩
  obtain ⟨-, failed, -, -, congr⟩ := issue_decided one.host one.session 0o640 [0x66] .fchmod hn
  exact ⟨hn, alike, failed .zero rfl rfl, congr Unit two.host two.session alike⟩

end SandboxProbe
