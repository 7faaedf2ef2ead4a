import SandboxProbe.FileTree.Machine
import SandboxProbe.Proofs.CommandLine.Acceptance
import SandboxProbe.Proofs.Confinement
import SandboxProbe.Proofs.Descriptors
import SandboxProbe.Proofs.FileTree.Resolution
import SandboxProbe.Proofs.Text.Octal

/-!
# What runs change in a tree

`course_frames`: whatever command lines are carried out one after the other, no entry comes, goes or
changes its data. A run that does not end in `ok`, or that reads metadata, leaves the tree as it was;
one that writes alters the one node that its path denotes, in the way of its call.
-/

namespace SandboxProbe

/-! ## Changes at one place -/

namespace Tree

variable {t : Tree} {f : Node → Node} {place location : Location}

def entries (t : Tree) : List (Location × Content) :=
  t.nodes.map fun (l, n) => (l, n.content)

theorem lookup_update (f : Node → Node) (nodes : List (Location × Node)) (spot location : Location) :
    (nodes.map fun (l, n) => if l = spot then (l, f n) else (l, n)).lookup location =
      if spot = location then (nodes.lookup location).map f else nodes.lookup location := by
  induction nodes with
  | nil => simp
  | cons x nodes ih =>
    obtain ⟨l, n⟩ := x
    by_cases hl : location = l
    · subst hl
      by_cases hs : spot = location
      · simp [hs]
      · simp [hs, Ne.symm hs]
    · have hl' : (location == l) = false := by simpa using hl
      simp only [List.map_cons]
      split
      · simp only [List.lookup_cons, hl', ih]
      · simp only [List.lookup_cons, hl', ih]

/-- Data and links stay as they are, so a change at one place hides no other. -/
theorem node?_update (hf : ∀ n, (f n).content = n.content) :
    (t.update f place).node? location =
      if place = location then (t.node? location).map f else t.node? location := by
  have same (n : Option Node) : (n.map f).map Node.content = n.map Node.content := by
    cases n with
    | none => rfl
    | some n => exact congrArg some (hf n)
  induction location with
  | nil => exact lookup_update f t.nodes place []
  | cons name above ih =>
    have content_above :
        ((t.update f place).node? above).map Node.content = (t.node? above).map Node.content := by
      rw [ih]
      split
      · exact same _
      · rfl
    rw [node?, node?, content_above]
    by_cases hd : (t.node? above).map Node.content = some .directory
    · rw [if_pos hd, if_pos hd]
      exact lookup_update f t.nodes place (name :: above)
    · rw [if_neg hd, if_neg hd]
      simp

theorem entries_update (hf : ∀ n, (f n).content = n.content) :
    (t.update f place).entries = t.entries := by
  simp only [update, entries, List.map_map]
  apply List.map_congr_left
  rintro ⟨l, n⟩ -
  by_cases h : l = place <;> simp [h, hf]

theorem update_id : t.update id place = t := by
  simp [update]

end Tree

/-! ## Calls that may be refused -/

namespace Machine

/-- A machine on which some calls are refused, by a sandbox or for want of a permission. A refused
call changes nothing. -/
def guarded (refusal : FileCall → Machine → Option Errno) (clock : Clock) (owner : Owner) :
    Host Machine :=
  { host clock owner with
    file := fun call m =>
      match refusal call m with
      | some e => (.fail e, m)
      | none => answer call m }

section
variable (refusal : FileCall → Machine → Option Errno) (clock : Clock) (owner : Owner) (m : Machine)

theorem guarded_cases (call : FileCall) :
    (∃ e, (guarded refusal clock owner).file call m = (.fail e, m)) ∨
      (guarded refusal clock owner).file call m = answer call m := by
  simp only [guarded]
  cases refusal call m with
  | some e => exact .inl ⟨e, rfl⟩
  | none => exact .inr rfl

theorem fail_rc_ne_zero (e : Errno) : (Reply.fail e).rc ≠ 0 := by
  change (-1 : Int32) ≠ 0
  decide

/-- A call on a node returns 0 exactly if the node was found, and then it changes that node alone. -/
theorem guarded_change {call : FileCall} {f : Node → Node} {found : Except Errno Location}
    (h : answer call m = m.change f found) :
    let did := (guarded refusal clock owner).file call m
    (did.1.rc = 0 ∧ ∃ place, found = .ok place ∧ did.2.tree = m.tree.update f place) ∨
      (did.1.rc ≠ 0 ∧ did.2.tree = m.tree) := by
  intro did
  rcases guarded_cases refusal clock owner m call with ⟨e, hd⟩ | hd
  · have hd : did = (.fail e, m) := hd
    rw [hd]
    exact .inr ⟨fail_rc_ne_zero e, rfl⟩
  · have hd : did = m.change f found := hd.trans h
    rw [hd]
    cases found with
    | ok place => exact .inl ⟨rfl, place, rfl, rfl⟩
    | error e => exact .inr ⟨fail_rc_ne_zero e, rfl⟩

theorem openPlace_refused {access : Access} {place : Location}
    (h : access = .write ∧ m.tree.isDirectory place) :
    m.openPlace access (.ok place) = (.fail .isDirectory, m) := if_pos h

def withOpen (place : Location) : Machine :=
  { m with descriptors := (m.freeDescriptor, place) :: m.descriptors }

theorem ofDescriptor_withOpen (place : Location) :
    (m.withOpen place).ofDescriptor m.freeDescriptor = .ok place := by
  simp [ofDescriptor, withOpen]

theorem openPlace_opened {access : Access} {place : Location}
    (h : ¬ (access = .write ∧ m.tree.isDirectory place)) :
    m.openPlace access (.ok place) = (⟨m.freeDescriptor, none⟩, m.withOpen place) := if_neg h

theorem guarded_open (path : Bytes) (access : Access) :
    let did := (guarded refusal clock owner).file (.openFile path access) m
    did.2.tree = m.tree ∧ (did.1.rc ≠ -1 →
      ∃ place, m.tree.resolve true path = .ok place ∧ did.2.ofDescriptor did.1.rc = .ok place) := by
  intro did
  rcases guarded_cases refusal clock owner m (.openFile path access) with ⟨e, hd⟩ | hd
  · have hd : did = (.fail e, m) := hd
    rw [hd]
    exact ⟨rfl, fun h => absurd rfl h⟩
  · have hd : did = m.openPlace access (m.tree.resolve true path) := hd
    rw [hd]
    cases m.tree.resolve true path with
    | error e => exact ⟨rfl, fun h => absurd rfl h⟩
    | ok place =>
      by_cases hw : access = .write ∧ m.tree.isDirectory place
      · rw [openPlace_refused m hw]
        exact ⟨rfl, fun h => absurd rfl h⟩
      · rw [openPlace_opened m hw]
        exact ⟨rfl, fun _ => ⟨place, rfl, m.ofDescriptor_withOpen place⟩⟩

theorem guarded_close (fd : Int32) :
    ((guarded refusal clock owner).file (.close fd) m).2.tree = m.tree := by
  rcases guarded_cases refusal clock owner m (.close fd) with ⟨e, hd⟩ | hd
  · rw [hd]
  · rw [hd, answer]
    split <;> rfl

end

end Machine

/-! ## What a call does to its node -/

namespace MenuCall

/-- Two calls work on a link that a path ends in; the others on what it leads to. -/
def followsLinks : MenuCall → Bool
  | .lstat | .lchown | .lutimes => false
  | _ => true

def effect (mode : UInt32) (clock : Clock) : MenuCall → Node → Node
  | .chmod | .fchmod => Node.withMode mode
  | .utimes | .futimes | .lutimes => Node.withTimes (Times.now clock)
  | .lchown | .fchown | .fchownat => Node.withOwner
  | _ => id

/-- What a call may change in a node: the mode, both times, or setuid and setgid. -/
def Alters (mode : UInt32) (now : Int64) (n n' : Node) : MenuCall → Prop
  | .chmod | .fchmod => n' = { n with mode := mode }
  | .utimes | .futimes | .lutimes => n' = { n with accessed := now, modified := now }
  | .lchown | .fchown | .fchownat =>
    ∃ left, n' = { n with mode := left } ∧
      left &&& ~~~(Node.setuidBit ||| Node.setgidBit) =
        n.mode &&& ~~~(Node.setuidBit ||| Node.setgidBit)
  | _ => n' = n

theorem content_effect (mode : UInt32) (clock : Clock) (call : MenuCall) (n : Node) :
    (call.effect mode clock n).content = n.content := by
  cases call with
  | lchown | fchown | fchownat => simp only [effect, Node.withOwner]; split <;> simp_all
  | _ => rfl

end MenuCall

/-! ## What a plan does to the tree -/

/-- A plan works on the node that the path denotes, or on the one that its descriptor leads to. -/
def Plan.Works (f : Node → Node) (follow : Bool) (path : Bytes) : Plan → Prop
  | .nothing => True
  | .onPath request =>
    ∀ m : Machine, m.answer request = m.change f (m.tree.resolve follow path)
  | .onDescriptor _ request =>
    follow = true ∧ ∀ (m : Machine) fd, m.answer (request fd) = m.change f (m.ofDescriptor fd)

theorem plan_works {σ : Type} (host : Host σ) (mode : UInt32) (path : Bytes) (call : MenuCall) :
    (call.plan host mode path).Works (call.effect mode host.clock) call.followsLinks path := by
  cases call with
  | getattrlist | setattrlist => trivial
  | fstat | fchmod | futimes | fchown => exact ⟨rfl, fun _ _ => rfl⟩
  | _ => exact fun _ => rfl

section
variable {refusal : FileCall → Machine → Option Errno} {clock : Clock} {owner : Owner} {m : Machine}
  {f : Node → Node} {follow : Bool} {path : Bytes} {plan : Plan}

/-- A plan that succeeds changes the node that the path denotes, and one that does not changes none. -/
theorem tree_plan (works : plan.Works f follow path) :
    let host := Machine.guarded refusal clock owner
    let left := host.after (plan.calls host path m) m
    (plan.Succeeds host path m ∧
        ∃ place, m.tree.resolve follow path = .ok place ∧ left.tree = m.tree.update f place) ∨
      (¬ plan.Succeeds host path m ∧ left.tree = m.tree) := by
  intro host left
  cases plan with
  | nothing => exact .inr ⟨id, rfl⟩
  | onPath request =>
    exact Machine.guarded_change refusal clock owner m (works m)
  | onDescriptor access request =>
    obtain ⟨rfl, works⟩ := works
    obtain ⟨kept, leads⟩ := Machine.guarded_open refusal clock owner m path access
    generalize hopen : (Machine.guarded refusal clock owner).file (.openFile path access) m = opened
      at kept leads
    have hopen' : Plan.openReply host path m access = opened := hopen
    by_cases hfd : opened.1.rc = -1
    · have hleft : left = opened.2 := by
        simp [left, Plan.calls, hopen', hfd, Host.after, host, hopen]
      exact .inr ⟨fun hs => hs.1 (by rw [hopen']; exact hfd), by rw [hleft, kept]⟩
    · -- the close that follows leaves the tree as the call has left it
      have hleft : left.tree = (host.file (request opened.1.rc) opened.2).2.tree := by
        simp only [left, Plan.calls, hopen', hfd, Host.after, host, hopen, ite_false,
          Machine.guarded_close]
      obtain ⟨place, resolved, found⟩ := leads hfd
      rw [hleft]
      rcases Machine.guarded_change refusal clock owner opened.2 (works opened.2 opened.1.rc) with
        ⟨hrc, place', hplace, htree⟩ | ⟨hrc, htree⟩
      · obtain rfl : place = place' := Except.ok.inj (found.symm.trans hplace)
        refine .inl ⟨⟨by rw [hopen']; exact hfd, by rw [hopen']; exact hrc⟩, place, resolved, ?_⟩
        rw [htree, kept]
      · refine .inr ⟨fun hs => hrc ?_, by rw [htree, kept]⟩
        have hs := hs.2
        rwa [hopen'] at hs

end

theorem status_outcome {σ : Type} (host : Host σ) (path : Bytes) (state : σ) (call : MenuCall)
    (plan : Plan) :
    (plan.outcome host path state call).report.status = .ok ↔ plan.Succeeds host path state := by
  have hdone : plan.outcome host path state call = .done call ↔ plan.Succeeds host path state :=
    Plan.outcome_eq_done host path state
  rw [← hdone]
  rcases Plan.outcome_cases host path state call plan with h | ⟨e, h⟩ | ⟨e, h⟩ <;>
    simp [h, Outcome.report]

theorem issue_plan {σ : Type} (host : Host σ) (s : Session σ) (mode : UInt32) {path : Bytes}
    (call : MenuCall) (hn : Library.holdsNul path = false) :
    let issued := (call.issue host mode path).run s
    let plan := call.plan host mode path
    issued.1 = plan.outcome host path s.state call ∧
      issued.2.state = host.after (plan.calls host path s.state) s.state := by
  refine ⟨outcome_issue host s hn, ?_⟩
  have hmade := (made_issue host s mode path call).2
  rwa [MenuCall.calls, if_neg (by simp [hn])] at hmade

section
variable (refusal : FileCall → Machine → Option Errno) (clock : Clock) (owner : Owner)
  (s : Session Machine)

theorem tree_issue (mode : UInt32) (path : Bytes) (call : MenuCall) :
    let issued := (call.issue (Machine.guarded refusal clock owner) mode path).run s
    (issued.1.report.status = .ok ∧
        ∃ place, s.state.tree.resolve call.followsLinks path = .ok place ∧
          issued.2.state.tree = s.state.tree.update (call.effect mode clock) place) ∨
      (issued.1.report.status ≠ .ok ∧ issued.2.state.tree = s.state.tree) := by
  intro issued
  by_cases hn : Library.holdsNul path
  · have hrun : issued = (.pathHoldsNul, s) := run_issue_nul _ s hn
    rw [hrun]
    exact .inr ⟨by simp [Outcome.report], rfl⟩
  · have hn : Library.holdsNul path = false := by simpa using hn
    obtain ⟨hout, hleft⟩ := issue_plan (Machine.guarded refusal clock owner) s mode call hn
    rw [show issued.1 = _ from hout, show issued.2.state = _ from hleft, Ne, status_outcome]
    exact tree_plan (plan_works (Machine.guarded refusal clock owner) mode path call)

theorem tree_makeCall (r : Request) :
    let called := (r.makeCall (Machine.guarded refusal clock owner)).run s
    (called.1.report.status = .ok ∧ ∃ call place, r.op.call? r.syscall = some call ∧
        s.state.tree.resolve call.followsLinks (Text.Utf8.encode r.path) = .ok place ∧
        called.2.state.tree = s.state.tree.update (call.effect r.mode clock) place) ∨
      (called.1.report.status ≠ .ok ∧ called.2.state.tree = s.state.tree) := by
  intro called
  cases hcall : r.op.call? r.syscall with
  | none =>
    have hrun : called = _ := Request.run_makeCall_offMenu r _ s (call?_eq_none_iff.mp hcall)
    rw [hrun]
    exact .inr ⟨by simp [Outcome.report], rfl⟩
  | some call =>
    have hrun : called =
        (call.issue (Machine.guarded refusal clock owner) r.mode (Text.Utf8.encode r.path)).run s := by
      simp only [called, Request.makeCall, hcall]
    rw [hrun]
    refine (tree_issue refusal clock owner s r.mode (Text.Utf8.encode r.path) call).imp_left ?_
    rintro ⟨hok, place, resolved, htree⟩
    exact ⟨hok, call, place, rfl, resolved, htree⟩

end

/-! ## What is left of a node -/

/-- The mode of an accepted command line has no bits but those of a mode. -/
theorem CommandLine.mode_le {argv : List Bytes} {r : Request} (accepted : parse argv = .ok r) :
    r.mode.toNat ≤ Text.Octal.highest := by
  obtain ⟨settings, scanned, -⟩ := parse_eq_ok_iff.mp accepted
  obtain ⟨items, line, -⟩ := line_of_scan scanned
  rcases ((parse_line line r).mp accepted).mode with ⟨v, -, given, -, read⟩ | ⟨-, default⟩
  · exact (Text.Octal.read_eq_ok_iff.mp read).2
  · rw [default]
    decide

theorem Node.withMode_of_le {mode : UInt32} (n : Node) (h : mode.toNat ≤ Text.Octal.highest) :
    n.withMode mode = { n with mode := mode } := by
  have hbits : mode &&& modeBits = mode := by
    apply UInt32.toNat_inj.mp
    rw [UInt32.toNat_and, show modeBits.toNat = 2 ^ 12 - 1 from rfl, Nat.and_two_pow_sub_one_eq_mod]
    exact Nat.mod_eq_of_lt (Nat.lt_succ_of_le h)
  rw [withMode, hbits]

theorem Node.withOwner_alters (n : Node) :
    ∃ left, n.withOwner = { n with mode := left } ∧
      left &&& ~~~(setuidBit ||| setgidBit) = n.mode &&& ~~~(setuidBit ||| setgidBit) := by
  have huid : ~~~setuidBit &&& ~~~(setuidBit ||| setgidBit) = ~~~(setuidBit ||| setgidBit) := by
    decide
  have hgid : ~~~setgidBit &&& ~~~(setuidBit ||| setgidBit) = ~~~(setuidBit ||| setgidBit) := by
    decide
  unfold withOwner
  split
  · exact ⟨n.mode, rfl, rfl⟩
  · refine ⟨_, rfl, ?_⟩
    split
    · rw [UInt32.and_assoc, huid]
    · rw [UInt32.and_assoc, hgid, UInt32.and_assoc, huid]

theorem MenuCall.effect_alters {mode : UInt32} (hm : mode.toNat ≤ Text.Octal.highest) (clock : Clock)
    (call : MenuCall) (n : Node) :
    call.Alters mode clock.wholeSeconds n (call.effect mode clock n) := by
  cases call with
  | chmod | fchmod => exact n.withMode_of_le hm
  | lchown | fchown | fchownat => exact n.withOwner_alters
  | _ => rfl

theorem MenuCall.effect_of_reads {mode : UInt32} {clock : Clock} {call : MenuCall}
    (h : call.operation = .readMetadata) : call.effect mode clock = id := by
  cases call <;> first | rfl | cases h

theorem operation_of_call? {op : Operation} {name : String} {call : MenuCall}
    (h : op.call? name = some call) : call.operation = op := by
  have hmem := List.mem_of_find?_eq_some h
  simpa [Operation.menu] using (List.mem_filter.mp hmem).2

/-! ## Runs one after the other -/

/-- An accepted command line that is carried out while a profile is in force. -/
structure Turn where
  argv : List Bytes
  request : Request
  accepted : CommandLine.parse argv = .ok request
  verdict : Verdict
  holds : verdict.rc = 0
  clock : Clock
  owner : Owner
  /-- The calls that are refused to it, by the sandbox or for want of a permission. -/
  refusal : FileCall → Machine → Option Errno

namespace Turn

def carryOut (turn : Turn) : Action Machine Record :=
  turn.request.fulfilWith (Machine.guarded turn.refusal turn.clock turn.owner)
    fun _ => return turn.verdict

/-- What a turn with this record has made of the tree. -/
structure Frames (turn : Turn) (before : Tree) (record : Record) (after : Tree) : Prop where
  entries : after.entries = before.entries
  workingDirectory : after.workingDirectory = before.workingDirectory
  failed : record.status ≠ .ok → after = before
  reads : turn.request.op = .readMetadata → after = before
  writes : record.status = .ok → turn.request.op = .write →
    ∃ call place, turn.request.op.call? turn.request.syscall = some call ∧
      before.Denotes call.followsLinks (Text.Utf8.encode turn.request.path) place ∧
      (call.followsLinks → ∀ target, before.content? place ≠ some (.link target)) ∧
      (∀ location, location ≠ place → after.node? location = before.node? location) ∧
      ∃ n n', before.node? place = some n ∧ after.node? place = some n' ∧
        call.Alters turn.request.mode (max turn.clock.seconds 0) n n'

variable (turn : Turn) (s : Session Machine)

theorem run_carryOut :
    let called := (turn.request.makeCall
      (Machine.guarded turn.refusal turn.clock turn.owner)).run s
    turn.carryOut.run s =
      (.ofReport turn.request.target turn.verdict called.1.report, called.2) :=
  turn.request.run_fulfilWith_of_holds _ (fun _ => return turn.verdict) s turn.holds

theorem frames_unchanged (record : Record) (t : Tree) (h : record.status ≠ .ok) :
    turn.Frames t record t where
  entries := rfl
  workingDirectory := rfl
  failed _ := rfl
  reads _ := rfl
  writes hok := absurd hok h

theorem frames_update {t : Tree} {record : Record} {call : MenuCall} {place : Location}
    (h : record.status = .ok) (hcall : turn.request.op.call? turn.request.syscall = some call)
    (denotes : t.Denotes call.followsLinks (Text.Utf8.encode turn.request.path) place) :
    turn.Frames t record (t.update (call.effect turn.request.mode turn.clock) place) where
  entries := Tree.entries_update (call.content_effect _ _)
  workingDirectory := rfl
  failed hne := absurd h hne
  reads hop := by
    rw [call.effect_of_reads ((operation_of_call? hcall).trans hop), Tree.update_id]
  writes _ _ := by
    refine ⟨call, place, hcall, denotes, fun hf => ?_, fun location hl => ?_, ?_⟩
    · rw [hf] at denotes
      exact denotes.not_link
    · rw [Tree.node?_update (call.content_effect _ _), if_neg (Ne.symm hl)]
    · obtain ⟨n, hn⟩ := denotes.node
      refine ⟨n, call.effect turn.request.mode turn.clock n, hn, ?_, ?_⟩
      · rw [Tree.node?_update (call.content_effect _ _), if_pos rfl, hn]
        rfl
      · rw [← Clock.wholeSeconds_eq_max]
        exact call.effect_alters (CommandLine.mode_le turn.accepted) turn.clock n

theorem carryOut_frames :
    turn.Frames s.state.tree (turn.carryOut.run s).1 (turn.carryOut.run s).2.state.tree := by
  rw [run_carryOut]
  rcases tree_makeCall turn.refusal turn.clock turn.owner s turn.request with
    ⟨hok, call, place, hcall, resolved, htree⟩ | ⟨hne, htree⟩
  · rw [htree]
    exact turn.frames_update hok hcall (Tree.resolve_eq_ok_iff.mp resolved)
  · rw [htree]
    exact turn.frames_unchanged _ _ hne

end Turn

structure Step where
  turn : Turn
  before : Tree
  record : Record
  after : Tree

def course : List Turn → Session Machine → List Step
  | [], _ => []
  | turn :: rest, s =>
    let (record, left) := turn.carryOut.run s
    ⟨turn, s.state.tree, record, left.state.tree⟩ :: course rest left

/-- In any course of accepted command lines under profiles that hold, every step leaves the entries of
the tree and their data as they were at the start. A step that does not end in `ok`, or that reads
metadata, leaves the whole tree; one that writes leaves every node but the one that its path denotes,
a final link followed or not as the call has it, and alters that one in the way of the call. -/
theorem course_frames (turns : List Turn) (s : Session Machine) :
    (course turns s).map Step.turn = turns ∧
      ∀ step ∈ course turns s,
        step.turn.Frames step.before step.record step.after ∧
          step.after.entries = s.state.tree.entries := by
  induction turns generalizing s with
  | nil => exact ⟨rfl, by simp [course]⟩
  | cons turn rest ih =>
    have first := turn.carryOut_frames s
    obtain ⟨all, others⟩ := ih (turn.carryOut.run s).2
    refine ⟨congrArg (turn :: ·) all, fun step hstep => ?_⟩
    rcases List.mem_cons.mp hstep with rfl | hstep
    · exact ⟨first, first.entries⟩
    · exact ⟨(others step hstep).1, (others step hstep).2.trans first.entries⟩

/-- A mode is changed through a link to an absolute path, then the times of the link itself, then a file
beside the working directory changes its owner. -/
theorem course_frames_links :
    let bytes := Text.Utf8.encode
    let tmp : Location := [bytes "tmp"]
    let work : Location := bytes "w" :: tmp
    let file : Location := bytes "f" :: work
    let link : Location := bytes "l" :: work
    let beside : Location := bytes "g" :: tmp
    let directory : Node := ⟨.directory, 0o755, 0, 0⟩
    let tree : Tree := ⟨work, [([], directory), (tmp, directory), (work, directory),
      (file, ⟨.file [1], 0o644, 0, 0⟩), (link, ⟨.link (bytes "/tmp/w/f"), 0o777, 0, 0⟩),
      (beside, ⟨.file [], 0o4755, 0, 0⟩)]⟩
    let turn (argv : List String) (request : Request)
        (accepted : CommandLine.parse (argv.map bytes) = .ok request) : Turn :=
      ⟨argv.map bytes, request, accepted, ⟨0, none, none, .blob⟩, rfl, ⟨5, 0⟩, ⟨0, 0⟩,
        fun _ _ => none⟩
    let profile : Profile := .blob (bytes "b")
    let turns : List Turn :=
      [turn ["p", "--blob=b", "--op=file-write*", "--path=l", "--chmod-mode=600"]
          ⟨profile, .write, "l", "chmod", none, 0o600⟩ (by decide),
        turn ["p", "--blob=b", "--op=file-write*", "--path=/tmp/w/l", "--syscall=lutimes"]
          ⟨profile, .write, "/tmp/w/l", "lutimes", none, 0o640⟩ (by decide),
        turn ["p", "--blob=b", "--op=file-write*", "--path=../g", "--syscall=fchownat"]
          ⟨profile, .write, "../g", "fchownat", none, 0o640⟩ (by decide)]
    let steps := course turns (.start (.start tree) .zero none)
    (∀ step ∈ steps, step.turn.Frames step.before step.record step.after ∧
        step.after.entries = tree.entries) ∧
      steps.map (fun step => (step.record.status, (step.after.node? file).map Node.mode,
          (step.after.node? link).map Node.modified, (step.after.node? beside).map Node.mode)) =
        [(.ok, some 0o600, some 0, some 0o4755), (.ok, some 0o600, some 5, some 0o4755),
          (.ok, some 0o600, some 5, some 0o755)] := by
  intro bytes tmp work file link beside directory tree turn profile turns steps
  exact ⟨(course_frames turns (.start (.start tree) .zero none)).2, by decide +kernel⟩

end SandboxProbe
