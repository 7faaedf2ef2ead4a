import SandboxProbe.Host.Script
import SandboxProbe.Proofs.Issue

/-!
# The calls of an entry, and its descriptors

`issue_calls` gives the calls of an entry one by one. Read together with the numbers that they return,
the calls of any sequence of entries are `Balanced`: a descriptor is opened when none is open, used
and closed while it is open, and none is open at the end.
-/

namespace SandboxProbe

variable {σ : Type}

/-! ## Replaying calls -/

/-- The calls, each with the number that it returns when they are made in this order. -/
def Host.answered (host : Host σ) : List FileCall → σ → List (FileCall × Int32)
  | [], _ => []
  | call :: rest, state =>
    (call, (host.file call state).1.rc) :: answered host rest (host.file call state).2

theorem answered_append (host : Host σ) (a b : List FileCall) (state : σ) :
    host.answered (a ++ b) state =
      host.answered a state ++ host.answered b (host.after a state) := by
  induction a generalizing state with
  | nil => rfl
  | cons call a ih => simp only [List.cons_append, Host.answered, Host.after, ih]

/-! ## Descriptors in a list of calls -/

def FileCall.descriptor? : FileCall → Option Int32
  | .close fd => some fd
  | .fstat fd => some fd
  | .fchmod fd _ => some fd
  | .futimes fd _ => some fd
  | .fchown fd _ => some fd
  | _ => none

/-- What a call with its returned number adds to the open descriptors with the number `fd`. -/
def FileCall.change (fd : Int32) : FileCall × Int32 → Int
  | (.openFile _ _, rc) => if rc = fd ∧ rc ≠ -1 then 1 else 0
  | (.close n, _) => if n = fd then -1 else 0
  | _ => 0

def heldAfter (fd : Int32) : List (FileCall × Int32) → Int
  | [] => 0
  | x :: trace => FileCall.change fd x + heldAfter fd trace

/-- Every descriptor is closed exactly once, and used and closed only while it is open. -/
structure Balanced (trace : List (FileCall × Int32)) : Prop where
  opensAlone : ∀ before path access rc rest, trace = before ++ (.openFile path access, rc) :: rest →
    ∀ fd, heldAfter fd before = 0
  usesHeld : ∀ before call rc rest fd, trace = before ++ (call, rc) :: rest →
    call.descriptor? = some fd → heldAfter fd before = 1
  settled : ∀ fd, heldAfter fd trace = 0

@[simp] theorem change_openFile (fd n : Int32) (path : Bytes) (access : Access) :
    FileCall.change fd (.openFile path access, n) = if n = fd ∧ n ≠ -1 then 1 else 0 := rfl

@[simp] theorem change_close (fd n rc : Int32) :
    FileCall.change fd (.close n, rc) = if n = fd then -1 else 0 := rfl

@[simp] theorem heldAfter_nil (fd : Int32) : heldAfter fd [] = 0 := rfl

@[simp] theorem heldAfter_cons (fd : Int32) (x : FileCall × Int32)
    (trace : List (FileCall × Int32)) :
    heldAfter fd (x :: trace) = FileCall.change fd x + heldAfter fd trace := rfl

@[simp] theorem heldAfter_append (fd : Int32) (a b : List (FileCall × Int32)) :
    heldAfter fd (a ++ b) = heldAfter fd a + heldAfter fd b := by
  induction a with
  | nil => simp
  | cons x a ih => simp [ih, Int.add_assoc]

namespace Balanced

theorem nil : Balanced [] where
  opensAlone before path access rc rest h := by simp at h
  usesHeld before call rc rest fd h := by simp at h
  settled fd := rfl

/-- The first part leaves nothing open, so the second part starts as if it were alone. -/
theorem append {a b : List (FileCall × Int32)} (ha : Balanced a) (hb : Balanced b) :
    Balanced (a ++ b) where
  opensAlone before path access rc rest h fd := by
    rcases split_append h with ⟨u, hu⟩ | ⟨u, rfl, hu⟩
    · exact ha.opensAlone before path access rc u hu fd
    · rw [heldAfter_append, ha.settled, hb.opensAlone u path access rc rest hu fd]
      rfl
  usesHeld before call rc rest fd h hd := by
    rcases split_append h with ⟨u, hu⟩ | ⟨u, rfl, hu⟩
    · exact ha.usesHeld before call rc u fd hu hd
    · rw [heldAfter_append, ha.settled, hb.usesHeld u call rc rest fd hu hd]
      rfl
  settled fd := by rw [heldAfter_append, ha.settled, hb.settled]; rfl

theorem single {call : FileCall} {rc : Int32} (hd : call.descriptor? = none)
    (h0 : ∀ fd, FileCall.change fd (call, rc) = 0) : Balanced [(call, rc)] where
  opensAlone before path access rc' rest h fd := by
    rcases before with _ | ⟨x, before⟩
    · rfl
    · simp at h
  usesHeld before call' rc' rest fd h hd' := by
    rcases before with _ | ⟨x, before⟩
    · simp only [List.nil_append, List.cons.injEq, Prod.mk.injEq] at h
      rw [← h.1.1, hd] at hd'
      cases hd'
    · simp at h
  settled fd := by simp [h0]

theorem split_three {α : Type} {a b c x : α} {before rest : List α}
    (h : [a, b, c] = before ++ x :: rest) :
    (before = [] ∧ a = x) ∨ (before = [a] ∧ b = x) ∨ (before = [a, b] ∧ c = x) := by
  rcases before with _ | ⟨p, _ | ⟨q, _ | ⟨r, before⟩⟩⟩ <;> simp_all

theorem through (path : Bytes) (access : Access) {fd : Int32} {call : FileCall} (rc rc' : Int32)
    (hfd : fd ≠ -1) (hd : call.descriptor? = some fd)
    (h0 : ∀ n, FileCall.change n (call, rc) = 0) :
    Balanced [(.openFile path access, fd), (call, rc), (.close fd, rc')] where
  opensAlone before path' access' r rest h n := by
    rcases split_three h with ⟨rfl, -⟩ | ⟨-, hx⟩ | ⟨-, hx⟩
    · rfl
    · obtain ⟨rfl, -⟩ := Prod.mk.inj hx
      cases hd
    · cases hx
  usesHeld before call' r rest n h hn := by
    rcases split_three h with ⟨-, hx⟩ | ⟨rfl, hx⟩ | ⟨rfl, hx⟩
    · cases hx
      cases hn
    · obtain ⟨rfl, -⟩ := Prod.mk.inj hx
      obtain rfl : fd = n := Option.some.inj (hd.symm.trans hn)
      simp [hfd]
    · cases hx
      obtain rfl : fd = n := Option.some.inj hn
      simp [hfd, h0]
  settled n := by
    by_cases hn : fd = n
    · subst hn
      simp [hfd, h0]
    · simp [hn, h0]

end Balanced

/-! ## Entries leave no descriptor behind -/

/-- A plan's call on a path has nothing to do with descriptors, and its call on a descriptor works on
that descriptor and on no other. -/
def Plan.Proper : Plan → Prop
  | .nothing => True
  | .onPath request => request.descriptor? = none ∧ ∀ n rc, FileCall.change n (request, rc) = 0
  | .onDescriptor _ request =>
    ∀ fd, (request fd).descriptor? = some fd ∧ ∀ n rc, FileCall.change n (request fd, rc) = 0

theorem plan_proper (host : Host σ) (mode : UInt32) (path : Bytes) (call : MenuCall) :
    (call.plan host mode path).Proper := by
  cases call with
  | getattrlist => trivial
  | setattrlist => trivial
  | fstat | fchmod | futimes | fchown => exact fun fd => ⟨rfl, fun _ _ => rfl⟩
  | _ => exact ⟨rfl, fun _ _ => rfl⟩

section
variable (host : Host σ) (path : Bytes) (state : σ)

theorem balanced_plan {plan : Plan} (h : plan.Proper) :
    Balanced (host.answered (plan.calls host path state) state) := by
  cases plan with
  | nothing => exact .nil
  | onPath request => exact .single h.1 fun n => h.2 n _
  | onDescriptor access request =>
    by_cases hfd : (Plan.openReply host path state access).1.rc = -1
    · simp only [Plan.calls, hfd, ite_true]
      have hopen : ∀ n, FileCall.change n (.openFile path access, -1) = 0 := by
        intro n
        simp
      simp only [Plan.openReply] at hfd
      simp only [Host.answered, hfd]
      exact .single rfl hopen
    · simp only [Plan.calls, hfd, ite_false]
      exact .through path access _ _ hfd (h _).1 fun n => (h _).2 n _

theorem balanced_calls (mode : UInt32) (call : MenuCall) :
    Balanced (host.answered (call.calls host mode path state) state) := by
  unfold MenuCall.calls
  split
  · exact .nil
  · exact balanced_plan host path state (plan_proper host mode path call)

end

structure Errand where
  call : MenuCall
  mode : UInt32
  path : Bytes
  deriving DecidableEq, Repr

def issueAll (host : Host σ) : List Errand → Action σ (List Outcome)
  | [] => return []
  | errand :: rest => do
    let outcome ← errand.call.issue host errand.mode errand.path
    return outcome :: (← issueAll host rest)

theorem made_issueAll (host : Host σ) (errands : List Errand) (s : Session σ) :
    ∃ made, s.Made host ((issueAll host errands).run s).2 made ∧
      Balanced (host.answered made s.state) := by
  induction errands generalizing s with
  | nil => exact ⟨[], .nil rfl rfl, .nil⟩
  | cons errand rest ih =>
    have first := made_issue host s errand.mode errand.path errand.call
    obtain ⟨more, hmore, hbalanced⟩ :=
      ih ((errand.call.issue host errand.mode errand.path).run s).2
    refine ⟨_, first.append hmore, ?_⟩
    rw [answered_append]
    rw [first.2] at hbalanced
    exact (balanced_calls host errand.path s.state errand.mode errand.call).append hbalanced

theorem Clock.wholeSeconds_eq_max (clock : Clock) : clock.wholeSeconds = max clock.seconds 0 := by
  have hmax : max clock.seconds 0 = if clock.seconds ≤ 0 then 0 else clock.seconds := rfl
  rw [hmax, Clock.wholeSeconds, Clock.sinceEpoch?]
  by_cases h : clock.seconds < 0
  · simp [h, Int64.le_of_lt h]
  · by_cases h0 : clock.seconds ≤ 0
    · have heq : clock.seconds = 0 := Int64.le_antisymm h0 (Int64.not_lt.mp h)
      simp [heq]
    · simp [h, h0]

/-- An entry makes the calls of its plan and no others, none where the path holds NUL. The times that
it hands over are both the clock's seconds, 0 for a clock that stands before 1970, and it opens for
reading or for writing with no flag that creates or truncates. Over any sequence of entries every
descriptor is closed exactly once, and none is used that is not open. -/
theorem issue_calls (host : Host σ) (s : Session σ) :
    (∀ mode path (call : MenuCall), ((call.issue host mode path).run s).2.calls = s.calls ++
      (if Library.holdsNul path then []
        else (call.plan host mode path).calls host path s.state).map .file) ∧
    Times.now host.clock = ⟨⟨max host.clock.seconds 0, 0⟩, ⟨max host.clock.seconds 0, 0⟩⟩ ∧
    (Access.read.flags = 0 ∧ Access.write.flags = 1 ∧ FileCall.workingDirectory = -100) ∧
    ∀ errands, ∃ made, ((issueAll host errands).run s).2.calls = s.calls ++ made.map .file ∧
      Balanced (host.answered made s.state) := by
  refine ⟨?_, ?_, ⟨rfl, rfl, rfl⟩, ?_⟩
  · intro mode path call
    exact (made_issue host s mode path call).1
  · simp only [Times.now, Clock.wholeSeconds_eq_max]
  · intro errands
    obtain ⟨made, hmade, hbalanced⟩ := made_issueAll host errands s
    exact ⟨made, hmade.1, hbalanced⟩

/-- A descriptor that is used after its close. -/
example : ¬ Balanced [(.openFile [0x66] .read, 3), (.close 3, 0), (.fstat 3, 0)] := by
  intro h
  have held := h.usesHeld [(.openFile [0x66] .read, 3), (.close 3, 0)] (.fstat 3) 0 [] 3 rfl rfl
  simp at held

end SandboxProbe
