import SandboxProbe.Proofs.Session
import SandboxProbe.Request

/-!
# What a metadata call asks of the host

The menu as names, and each entry as a plan: nothing, one call on the path, or one call on a
descriptor that is opened for it. `outcome_issueCalls` says that an entry's outcome is the one its plan
has on the state where it starts, and `made_issue` that it makes the calls of its plan.
-/

namespace SandboxProbe

variable {σ : Type}

/-! ## Names -/

/-- The names on the menu of an operation. -/
def Operation.names : Operation → List String
  | .readMetadata => ["lstat", "getattrlist", "setattrlist", "fstat"]
  | .write =>
    ["chmod", "utimes", "fchmod", "futimes", "lchown", "fchown", "fchownat", "lutimes"]

theorem map_name_menu (op : Operation) : op.menu.map MenuCall.name = op.names := by
  cases op <;> rfl

theorem name_of_call? {op : Operation} {name : String} {call : MenuCall}
    (h : op.call? name = some call) : call.name = name := by
  have := List.find?_some h
  simpa using this

theorem call?_eq_none_iff {op : Operation} {name : String} :
    op.call? name = none ↔ name ∉ op.names := by
  rw [← map_name_menu, Operation.call?, List.find?_eq_none]
  simp

theorem call?_of_mem_names {op : Operation} {name : String} (h : name ∈ op.names) :
    ∃ call, op.call? name = some call := by
  rw [← Option.isSome_iff_exists, ← Option.ne_none_iff_isSome]
  exact fun hn => call?_eq_none_iff.mp hn h

theorem defaultCall_mem_names (op : Operation) : op.defaultCall.name ∈ op.names := by
  cases op <;> decide

/-! ## Plans -/

/-- What a menu entry asks of the host. -/
inductive Plan
  | nothing
  | onPath (request : FileCall)
  | onDescriptor (access : Access) (request : Int32 → FileCall)

def MenuCall.plan (host : Host σ) (mode : UInt32) (path : Bytes) : MenuCall → Plan
  | .lstat => .onPath (.lstat path)
  | .getattrlist => .nothing
  | .setattrlist => .nothing
  | .fstat => .onDescriptor .read .fstat
  | .chmod => .onPath (.chmod path mode)
  | .utimes => .onPath (.utimes path (Times.now host.clock))
  | .fchmod => .onDescriptor .write (.fchmod · mode)
  | .futimes => .onDescriptor .write (.futimes · (Times.now host.clock))
  | .lchown => .onPath (.lchown path host.owner)
  | .fchown => .onDescriptor .write (.fchown · host.owner)
  | .fchownat => .onPath (.fchownat FileCall.workingDirectory path host.owner 0)
  | .lutimes => .onPath (.lutimes path (Times.now host.clock))

namespace Plan

variable (host : Host σ) (path : Bytes) (state : σ)

/-- The reply to the open that a plan needs, and the state after it. -/
def openReply (access : Access) : Reply × σ := host.file (.openFile path access) state

/-- The needed open, if there is one, gives a descriptor, and the call itself returns 0. -/
def Succeeds : Plan → Prop
  | .nothing => False
  | .onPath request => (host.file request state).1.rc = 0
  | .onDescriptor access request =>
    (openReply host path state access).1.rc ≠ -1 ∧
      (host.file (request (openReply host path state access).1.rc)
        (openReply host path state access).2).1.rc = 0

/-- What a call's own reply makes of it. -/
def settled (call : MenuCall) (reply : Reply) : Outcome :=
  if reply.rc = 0 then .done call else .failed (reply.errno.getD .zero)

def outcome (call : MenuCall) : Plan → Outcome
  | .nothing => .failed .unsupported
  | .onPath request => settled call (host.file request state).1
  | .onDescriptor access request =>
    if (openReply host path state access).1.rc = -1 then
      .openFailed ((openReply host path state access).1.errno.getD .zero)
    else
      settled call (host.file (request (openReply host path state access).1.rc)
        (openReply host path state access).2).1

theorem settled_eq_done {call : MenuCall} {reply : Reply} :
    settled call reply = .done call ↔ reply.rc = 0 := by
  unfold settled
  split <;> simp_all

theorem settled_cases (call : MenuCall) (reply : Reply) :
    settled call reply = .done call ∨ ∃ e, settled call reply = .failed e := by
  unfold settled
  split
  · exact .inl rfl
  · exact .inr ⟨_, rfl⟩

section
variable {host path state}
variable {access : Access} {request : Int32 → FileCall}

theorem outcome_unopened (call : MenuCall)
    (h : (openReply host path state access).1.rc = -1) :
    (onDescriptor access request).outcome host path state call =
      .openFailed ((openReply host path state access).1.errno.getD .zero) := by
  simp [outcome, h]

theorem outcome_opened (call : MenuCall)
    (h : (openReply host path state access).1.rc ≠ -1) :
    (onDescriptor access request).outcome host path state call =
      settled call (host.file (request (openReply host path state access).1.rc)
        (openReply host path state access).2).1 := by
  simp [outcome, h]

end

theorem outcome_eq_done {call : MenuCall} {plan : Plan} :
    plan.outcome host path state call = .done call ↔ plan.Succeeds host path state := by
  cases plan with
  | nothing => simp [outcome, Succeeds]
  | onPath request => exact settled_eq_done
  | onDescriptor access request =>
    by_cases h : (openReply host path state access).1.rc = -1
    · simp [outcome_unopened call h, Succeeds, h]
    · simp [outcome_opened call h, Succeeds, h, settled_eq_done]

theorem outcome_cases (call : MenuCall) (plan : Plan) :
    plan.outcome host path state call = .done call ∨
      (∃ e, plan.outcome host path state call = .failed e) ∨
      ∃ e, plan.outcome host path state call = .openFailed e := by
  cases plan with
  | nothing => exact .inr (.inl ⟨_, rfl⟩)
  | onPath request =>
    rcases settled_cases call (host.file request state).1 with h | h
    · exact .inl h
    · exact .inr (.inl h)
  | onDescriptor access request =>
    by_cases h : (openReply host path state access).1.rc = -1
    · exact .inr (.inr ⟨_, outcome_unopened call h⟩)
    · rw [outcome_opened call h]
      rcases settled_cases call (host.file (request (openReply host path state access).1.rc)
        (openReply host path state access).2).1 with h | h
      · exact .inl h
      · exact .inr (.inl h)

end Plan

/-! ## Running an entry -/

variable (host : Host σ) (s : Session σ)

/-- The session after a file call that was made with `errno` reset. -/
def Session.tried (call : FileCall) : Session σ :=
  { s with
    state := (host.file call s.state).2
    errno := (host.file call s.state).1.errno.getD .zero
    calls := s.calls ++ [.file call] }

theorem run_conclude (call : MenuCall) (rc : Int32) :
    (conclude call rc).run s = (if rc = 0 then .done call else .failed s.errno, s) := by
  unfold conclude
  split <;> rfl

theorem run_onPath (call : MenuCall) (request : FileCall) :
    (onPath host call request).run s =
      (Plan.settled call (host.file request s.state).1, s.tried host request) := by
  rw [onPath, Action.run_bind, Action.run_resetErrno, Action.run_bind, Host.run_fileCall, run_conclude]
  rfl

section
variable {host s}
variable {path : Bytes} {access : Access} (call : MenuCall) (request : Int32 → FileCall)

theorem run_onDescriptor_unopened (h : (Plan.openReply host path s.state access).1.rc = -1) :
    (onDescriptor host call path access request).run s =
      (.openFailed ((Plan.openReply host path s.state access).1.errno.getD .zero),
        s.tried host (.openFile path access)) := by
  rw [onDescriptor, Action.run_bind, Action.run_resetErrno, Action.run_bind, Host.run_fileCall]
  simp only [Plan.openReply] at h
  simp only [h, ite_true]
  rfl

/-- A descriptor is closed after its call, and the outcome is the one from before the close. -/
theorem run_onDescriptor_opened (h : (Plan.openReply host path s.state access).1.rc ≠ -1) :
    (onDescriptor host call path access request).run s =
      let fd := (Plan.openReply host path s.state access).1.rc
      let after := (s.tried host (.openFile path access)).tried host (request fd)
      (Plan.settled call (host.file (request fd) (Plan.openReply host path s.state access).2).1,
        ((host.fileCall (.close fd)).run after).2) := by
  rw [onDescriptor, Action.run_bind, Action.run_resetErrno, Action.run_bind, Host.run_fileCall]
  simp only [Plan.openReply] at h
  simp only [h, ite_false, Action.run_bind, run_onPath]
  rfl

end

theorem outcome_onDescriptor (call : MenuCall) (path : Bytes) (access : Access)
    (request : Int32 → FileCall) :
    ((onDescriptor host call path access request).run s).1 =
      (Plan.onDescriptor access request).outcome host path s.state call := by
  by_cases h : (Plan.openReply host path s.state access).1.rc = -1
  · rw [run_onDescriptor_unopened call request h, Plan.outcome_unopened call h]
  · rw [run_onDescriptor_opened call request h, Plan.outcome_opened call h]

theorem outcome_issueCalls (mode : UInt32) (path : Bytes) (call : MenuCall) :
    ((call.issueCalls host mode path).run s).1 =
      (call.plan host mode path).outcome host path s.state call := by
  cases call with
  | getattrlist => rfl
  | setattrlist => rfl
  | fstat | fchmod | futimes | fchown => exact outcome_onDescriptor host s _ path _ _
  | _ => simp only [MenuCall.issueCalls, run_onPath]; rfl

theorem outcome_issue {mode : UInt32} {path : Bytes} {call : MenuCall}
    (hn : Library.holdsNul path = false) :
    ((call.issue host mode path).run s).1 =
      (call.plan host mode path).outcome host path s.state call := by
  unfold MenuCall.issue
  simp only [hn, Bool.false_eq_true, ite_false, Action.run_bind, Action.run_log]
  exact outcome_issueCalls host _ mode path call

theorem run_issue_nul {mode : UInt32} {path : Bytes} {call : MenuCall}
    (hn : Library.holdsNul path = true) :
    (call.issue host mode path).run s = (.pathHoldsNul, s) := by
  unfold MenuCall.issue
  simp only [hn, ite_true]
  rfl

/-! ## The calls of an entry -/

/-- The calls of a plan: what follows an open depends on the number that it returns. -/
def Plan.calls (host : Host σ) (path : Bytes) (state : σ) : Plan → List FileCall
  | .nothing => []
  | .onPath request => [request]
  | .onDescriptor access request =>
    let fd := (openReply host path state access).1.rc
    .openFile path access :: if fd = -1 then [] else [request fd, .close fd]

def MenuCall.calls (host : Host σ) (mode : UInt32) (path : Bytes) (state : σ) (call : MenuCall) :
    List FileCall :=
  if Library.holdsNul path then [] else (call.plan host mode path).calls host path state

theorem made_onPath (call : MenuCall) (request : FileCall) :
    s.Made host ((onPath host call request).run s).2 [request] := by
  rw [run_onPath]
  exact ⟨rfl, rfl⟩

theorem made_onDescriptor (call : MenuCall) (path : Bytes) (access : Access)
    (request : Int32 → FileCall) :
    s.Made host ((onDescriptor host call path access request).run s).2
      ((Plan.onDescriptor access request).calls host path s.state) := by
  by_cases h : (Plan.openReply host path s.state access).1.rc = -1
  · rw [run_onDescriptor_unopened call request h]
    simp only [Plan.calls, h, ite_true]
    exact ⟨rfl, rfl⟩
  · rw [run_onDescriptor_opened call request h]
    simp only [Plan.calls, h, ite_false]
    exact ⟨by simp [Host.run_fileCall, Session.tried, Plan.openReply], rfl⟩

theorem made_issue (mode : UInt32) (path : Bytes) (call : MenuCall) :
    s.Made host ((call.issue host mode path).run s).2 (call.calls host mode path s.state) := by
  unfold MenuCall.issue MenuCall.calls
  split
  · exact .nil rfl rfl
  · rw [Action.run_bind, Action.run_log]
    have logged : s.Made host { s with events := s.events ++ [.dispatching call path] } [] :=
      .nil rfl rfl
    refine logged.append ?_
    cases call with
    | getattrlist => exact .nil rfl rfl
    | setattrlist => exact .nil rfl rfl
    | fstat | fchmod | futimes | fchown => exact made_onDescriptor host _ _ path _ _
    | _ => exact made_onPath host _ _ _

end SandboxProbe
