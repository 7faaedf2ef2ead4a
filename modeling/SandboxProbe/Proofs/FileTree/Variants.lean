import SandboxProbe.Proofs.FileTree.Effects

/-!
# Calls on a path and calls on a descriptor

Mode, times and owner can each be altered through the path or through a descriptor that is opened for
writing. `variants_agree`: both ways end alike and leave the same tree, whatever the path, but for
directories, which cannot be opened for writing.
-/

namespace SandboxProbe

/-- What can be altered in two ways. -/
inductive Alteration
  | mode
  | times
  | owner
  deriving DecidableEq, Repr

namespace Alteration

def byPath : Alteration → MenuCall
  | mode => .chmod
  | times => .utimes
  | owner => .fchownat

def byDescriptor : Alteration → MenuCall
  | mode => .fchmod
  | times => .futimes
  | owner => .fchown

/-- What both ways do to the node. -/
def effect (mode : UInt32) (clock : Clock) (a : Alteration) : Node → Node :=
  a.byPath.effect mode clock

end Alteration

namespace Tree

/-- The path denotes a directory. -/
def LeadsToDirectory (t : Tree) (path : Bytes) : Prop :=
  Library.holdsNul path = false ∧ ∃ place, t.Denotes true path place ∧ t.isDirectory place

theorem leadsToDirectory_iff {t : Tree} {path : Bytes} :
    t.LeadsToDirectory path ↔
      Library.holdsNul path = false ∧ ((t.resolve true path).toOption.any t.isDirectory) = true := by
  apply and_congr_right'
  simp only [← resolve_eq_ok_iff]
  cases t.resolve true path <;> simp [Except.toOption]

instance (t : Tree) (path : Bytes) : Decidable (t.LeadsToDirectory path) :=
  decidable_of_iff' _ leadsToDirectory_iff

end Tree

section
variable (a : Alteration) (clock : Clock) (owner : Owner) (mode : UInt32) (path : Bytes)

theorem plan_byPath :
    ∃ request, a.byPath.plan (Machine.host clock owner) mode path = .onPath request ∧
      ∀ m : Machine, m.answer request = m.change (a.effect mode clock) (m.tree.resolve true path) := by
  cases a <;> exact ⟨_, rfl, fun _ => rfl⟩

theorem plan_byDescriptor :
    ∃ request, a.byDescriptor.plan (Machine.host clock owner) mode path =
        .onDescriptor .write request ∧
      ∀ (m : Machine) fd,
        m.answer (request fd) = m.change (a.effect mode clock) (m.ofDescriptor fd) := by
  cases a <;> exact ⟨_, rfl, fun _ _ => rfl⟩

end

/-! ## The ways that each can go -/

section
variable (a : Alteration) (clock : Clock) (owner : Owner) (mode : UInt32) (s : Session Machine)
  {path : Bytes} {place : Location} {e : Errno}

theorem issue_byPath (hn : Library.holdsNul path = false) {found : Except Errno Location}
    (h : s.state.tree.resolve true path = found) :
    let issued := (a.byPath.issue (Machine.host clock owner) mode path).run s
    let did := s.state.change (a.effect mode clock) found
    issued.1 = Plan.settled a.byPath did.1 ∧ issued.2.state = did.2 := by
  intro issued did
  obtain ⟨hout, hleft⟩ := issue_plan (Machine.host clock owner) s mode a.byPath hn
  obtain ⟨request, hplan, works⟩ := plan_byPath a clock owner mode path
  have hreply : (Machine.host clock owner).file request s.state = did :=
    (works s.state).trans (congrArg _ h)
  rw [hplan] at hout hleft
  rw [show issued.1 = _ from hout, show issued.2.state = _ from hleft]
  simp only [Plan.outcome, Plan.calls, Host.after, hreply, and_self]

theorem issue_byPath_found (hn : Library.holdsNul path = false)
    (h : s.state.tree.resolve true path = .ok place) :
    let issued := (a.byPath.issue (Machine.host clock owner) mode path).run s
    issued.1 = .done a.byPath ∧
      issued.2.state.tree = s.state.tree.update (a.effect mode clock) place :=
  (issue_byPath a clock owner mode s hn h).imp_right (congrArg Machine.tree)

theorem issue_byPath_missing (hn : Library.holdsNul path = false)
    (h : s.state.tree.resolve true path = .error e) :
    let issued := (a.byPath.issue (Machine.host clock owner) mode path).run s
    issued.1 = .failed e ∧ issued.2.state.tree = s.state.tree :=
  (issue_byPath a clock owner mode s hn h).imp_right (congrArg Machine.tree)

/-- An alteration by descriptor ends with its open where that fails. -/
theorem issue_byDescriptor_unopened (hn : Library.holdsNul path = false)
    (h : s.state.openPlace .write (s.state.tree.resolve true path) = (.fail e, s.state)) :
    let issued := (a.byDescriptor.issue (Machine.host clock owner) mode path).run s
    issued.1 = .openFailed e ∧ issued.2.state.tree = s.state.tree := by
  intro issued
  obtain ⟨hout, hleft⟩ := issue_plan (Machine.host clock owner) s mode a.byDescriptor hn
  obtain ⟨request, hplan, -⟩ := plan_byDescriptor a clock owner mode path
  have hopen : (Machine.host clock owner).file (.openFile path .write) s.state =
      (.fail e, s.state) := h
  rw [hplan] at hout hleft
  rw [show issued.1 = _ from hout, show issued.2.state = _ from hleft]
  simp only [Plan.outcome, Plan.calls, Plan.openReply, Host.after, hopen]
  exact ⟨rfl, rfl⟩

theorem issue_byDescriptor_opened (hn : Library.holdsNul path = false)
    (hfd : s.state.freeDescriptor ≠ -1) (h : s.state.tree.resolve true path = .ok place)
    (hd : ¬ s.state.tree.isDirectory place) :
    let issued := (a.byDescriptor.issue (Machine.host clock owner) mode path).run s
    issued.1 = .done a.byDescriptor ∧
      issued.2.state.tree = s.state.tree.update (a.effect mode clock) place := by
  intro issued
  obtain ⟨hout, hleft⟩ := issue_plan (Machine.host clock owner) s mode a.byDescriptor hn
  obtain ⟨request, hplan, works⟩ := plan_byDescriptor a clock owner mode path
  have hopen : (Machine.host clock owner).file (.openFile path .write) s.state =
      (⟨s.state.freeDescriptor, none⟩, s.state.withOpen place) :=
    (congrArg _ h).trans (Machine.openPlace_opened s.state fun hw => hd hw.2)
  have hreply : (Machine.host clock owner).file (request s.state.freeDescriptor)
      (s.state.withOpen place) =
        (s.state.withOpen place).change (a.effect mode clock) (.ok place) :=
    s.state.ofDescriptor_withOpen place ▸ works (s.state.withOpen place) s.state.freeDescriptor
  rw [hplan] at hout hleft
  rw [show issued.1 = _ from hout, show issued.2.state = _ from hleft]
  simp only [Plan.outcome, Plan.calls, Plan.openReply, Host.after, hopen, hfd, ite_false, hreply]
  exact ⟨rfl, Machine.guarded_close (fun _ _ => none) clock owner _ s.state.freeDescriptor⟩

theorem issue_byDescriptor_missing (hn : Library.holdsNul path = false)
    (h : s.state.tree.resolve true path = .error e) :
    let issued := (a.byDescriptor.issue (Machine.host clock owner) mode path).run s
    issued.1 = .openFailed e ∧ issued.2.state.tree = s.state.tree :=
  issue_byDescriptor_unopened a clock owner mode s hn (congrArg _ h)

theorem issue_byDescriptor_directory (hn : Library.holdsNul path = false)
    (h : s.state.tree.resolve true path = .ok place) (hd : s.state.tree.isDirectory place) :
    let issued := (a.byDescriptor.issue (Machine.host clock owner) mode path).run s
    issued.1 = .openFailed .isDirectory ∧ issued.2.state.tree = s.state.tree :=
  issue_byDescriptor_unopened a clock owner mode s hn
    ((congrArg _ h).trans (Machine.openPlace_refused s.state ⟨rfl, hd⟩))

end

/-- Whether a mode, times or an owner are altered through the path or through a descriptor, the status,
the error number and the tree that is left are the same, whatever the path and however its resolution
fails. Only a path that denotes a directory tells them apart: it cannot be opened for writing. -/
theorem variants_agree (a : Alteration) (t : Tree) (clock : Clock) (owner : Owner) (mode : UInt32)
    (path : Bytes) (errno : Errno) (pending : Option Bytes) :
    let issued (call : MenuCall) := (call.issue (Machine.host clock owner) mode path).run
      (Session.start (Machine.start t) errno pending)
    let direct := issued a.byPath
    let opened := issued a.byDescriptor
    (¬ t.LeadsToDirectory path →
      opened.1.report.status = direct.1.report.status ∧
        opened.1.report.errno = direct.1.report.errno ∧
        opened.2.state.tree = direct.2.state.tree) ∧
    (t.LeadsToDirectory path →
      opened.1.report = ⟨.failed, some .isDirectory, some "open failed"⟩ ∧
        opened.2.state.tree = t ∧ direct.1.report.status = .ok) := by
  intro issued direct opened
  have hfd : (Machine.start t).freeDescriptor ≠ -1 := by
    rw [show (Machine.start t).freeDescriptor = 3 from rfl]
    decide
  by_cases hn : Library.holdsNul path
  · have hdirect : direct = (.pathHoldsNul, _) := run_issue_nul _ _ hn
    have hopened : opened = (.pathHoldsNul, _) := run_issue_nul _ _ hn
    rw [hdirect, hopened]
    exact ⟨fun _ => ⟨rfl, rfl, rfl⟩, fun h => absurd (h.1.symm.trans hn) (by decide)⟩
  have hn : Library.holdsNul path = false := by simpa using hn
  let s := Session.start (Machine.start t) errno pending
  cases hr : t.resolve true path with
  | error e =>
    have hdirect : direct.1 = .failed e ∧ direct.2.state.tree = t :=
      issue_byPath_missing a clock owner mode s hn hr
    have hopened : opened.1 = .openFailed e ∧ opened.2.state.tree = t :=
      issue_byDescriptor_missing a clock owner mode s hn hr
    rw [hdirect.1, hdirect.2, hopened.1, hopened.2]
    refine ⟨fun _ => ⟨rfl, rfl, rfl⟩, fun ⟨_, place, denotes, _⟩ => ?_⟩
    rw [Tree.resolve_eq_ok_iff.mpr denotes] at hr
    cases hr
  | ok place =>
    have denotes := Tree.resolve_eq_ok_iff.mp hr
    have hdirect : direct.1 = .done a.byPath ∧
        direct.2.state.tree = t.update (a.effect mode clock) place :=
      issue_byPath_found a clock owner mode s hn hr
    by_cases hd : t.isDirectory place
    · have hopened : opened.1 = .openFailed .isDirectory ∧ opened.2.state.tree = t :=
        issue_byDescriptor_directory a clock owner mode s hn hr hd
      rw [hdirect.1, hopened.1, hopened.2]
      exact ⟨fun h => absurd ⟨hn, place, denotes, hd⟩ h, fun _ => ⟨rfl, rfl, rfl⟩⟩
    · have hopened : opened.1 = .done a.byDescriptor ∧
          opened.2.state.tree = t.update (a.effect mode clock) place :=
        issue_byDescriptor_opened a clock owner mode s hn hfd hr hd
      rw [hdirect.1, hdirect.2, hopened.1, hopened.2]
      refine ⟨fun _ => ⟨rfl, rfl, rfl⟩, fun ⟨_, place', denotes', hd'⟩ => ?_⟩
      exact absurd (denotes.unique denotes' ▸ hd') hd

/-- A mode is changed through a link to an absolute path, and that of a directory above the working
directory is not changed through a descriptor. -/
theorem variants_agree_absolute :
    let bytes := Text.Utf8.encode
    let tmp : Location := [bytes "tmp"]
    let work : Location := bytes "w" :: tmp
    let directory : Node := ⟨.directory, 0o755, 0, 0⟩
    let tree : Tree := ⟨work, [([], directory), (tmp, directory), (work, directory),
      (bytes "f" :: work, ⟨.file [1], 0o644, 0, 0⟩),
      (bytes "l" :: work, ⟨.link (bytes "/tmp/w/f"), 0o777, 0, 0⟩)]⟩
    let issued (call : MenuCall) (path : Bytes) :=
      (call.issue (Machine.host ⟨5, 0⟩ ⟨0, 0⟩) 0o600 path).run
        (Session.start (Machine.start tree) .zero none)
    (issued .chmod (bytes "l")).1.report.status = .ok ∧
      (issued .fchmod (bytes "l")).1.report.status = .ok ∧
      (issued .fchmod (bytes "l")).2.state.tree = (issued .chmod (bytes "l")).2.state.tree ∧
      ((issued .chmod (bytes "l")).2.state.tree.node? (bytes "f" :: work)).map Node.mode =
        some 0o600 ∧
      (issued .fchmod (bytes "/tmp")).1.report = ⟨.failed, some .isDirectory, some "open failed"⟩ ∧
      (issued .fchmod (bytes "/tmp")).2.state.tree = tree ∧
      (issued .chmod (bytes "/tmp")).1.report.status = .ok := by
  intro bytes tmp work directory tree issued
  have link := (variants_agree .mode tree ⟨5, 0⟩ ⟨0, 0⟩ 0o600 (bytes "l") .zero none).1 (by decide)
  have above := (variants_agree .mode tree ⟨5, 0⟩ ⟨0, 0⟩ 0o600 (bytes "/tmp") .zero none).2 (by decide)
  have direct : (issued .chmod (bytes "l")).1.report.status = .ok := by decide
  exact ⟨direct, link.1.trans direct, link.2.2, by decide, above⟩

end SandboxProbe
