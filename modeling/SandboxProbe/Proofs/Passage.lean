import SandboxProbe.Host.Script
import SandboxProbe.Proofs.Enforcement

/-!
# How far a blob gets

`passage` reads off the host's answers how far a blob gets on its way into the sandbox; the verdict
and the calls of a run are those of its passage. `enforce_passes` says what they are at each of the
five ends, that an open library is closed last, and what they do not depend on.
`enforce_attributes_iff` says when the error number of a verdict is the failed step's own.
-/

namespace SandboxProbe

variable {σ : Type}

namespace Errno

theorem nonzero?_getD_zero (e : Option Errno) :
    (e.getD .zero).nonzero? = e.bind nonzero? := by
  cases e <;> rfl

theorem nonzero?_eq_none_iff {e : Errno} : e.nonzero? = none ↔ e = .zero := by
  cases e with
  | mk code => simp [nonzero?, zero]

theorem nonzero?_eq_self_iff {e : Errno} : e.nonzero? = some e ↔ e ≠ .zero := by
  cases e with
  | mk code => simp [nonzero?, zero]

end Errno

namespace Profile

/-- The end of a blob's way, with what the calls that count put into `errno`. -/
inductive Passage
  | noLibrary (set : Option Errno)
  | noEntry (left set : Option Errno)
  | noBytes (set : Option Errno)
  | handedOver (data : Bytes) (reply : Reply)
  deriving DecidableEq, Repr

def passage (host : Host σ) (path : Bytes) (state : σ) : Passage :=
  match host.library library with
  | .missing set _ => .noLibrary set
  | .found left =>
    match host.symbol entryPoint with
    | .missing set _ => .noEntry left set
    | .found _ =>
      match bytesAt host path state with
      | .error set => .noBytes set
      | .ok data => .handedOver data (host.sandboxApply (.ofBytes data))

def enteringCalls (path data : Bytes) : List HostCall :=
  [.dlopen library Library.resolveNow, .dlsym entryPoint, .contents path,
   .sandboxApply (.ofBytes data), .dlclose]

namespace Passage

def verdict : Passage → Verdict
  | noLibrary set => ⟨-1, (set.getD .zero).nonzero?, some "dlopen libsandbox failed", .blob⟩
  | noEntry left set =>
    ⟨-1, (set.getD (left.getD .zero)).nonzero?, some "dlsym sandbox_apply failed", .blob⟩
  | noBytes set => ⟨-2, set, some "failed to load blob", .blob⟩
  | handedOver _ reply =>
    ⟨reply.rc, if reply.rc = 0 then none else (reply.errno.getD .zero).nonzero?, none, .blob⟩

def calls (path : Bytes) : Passage → List HostCall
  | noLibrary _ => [.dlopen library Library.resolveNow]
  | noEntry .. => [.dlopen library Library.resolveNow, .dlsym entryPoint, .dlclose]
  | noBytes _ =>
    [.dlopen library Library.resolveNow, .dlsym entryPoint] ++ readingCalls path ++ [.dlclose]
  | handedOver data _ => enteringCalls path data

/-- What the last step put into `errno`. -/
def set : Passage → Option Errno
  | noLibrary set => set
  | noEntry _ set => set
  | noBytes set => set
  | handedOver _ reply => reply.errno

end Passage

/-! ## A run goes the way of its passage -/

variable (host : Host σ) (s : Session σ) (path : Bytes)

theorem run_enforceBlob :
    ((enforceBlob host path).run s).1 = (passage host path s.state).verdict ∧
      ((enforceBlob host path).run s).2.calls =
        s.calls ++ (passage host path s.state).calls path := by
  unfold passage
  cases hl : host.library library with
  | missing e text =>
    rw [run_enforceBlob_noLibrary host s hl]
    exact ⟨rfl, rfl⟩
  | found e =>
    rw [run_enforceBlob_found host s hl]
    cases hs : host.symbol entryPoint with
    | missing e' text =>
      rw [run_enforceThrough_noEntry host _ hs]
      exact ⟨rfl, by simp [opened, Session.asked, Host.run_closeLibrary, Passage.calls]⟩
    | found e' =>
      -- opening the library leaves the host's state alone, so the bytes are still those of `s`
      have hstate : (opened s e).state = s.state := rfl
      cases hb : bytesAt host path s.state with
      | error e'' =>
        rw [run_enforceThrough_noBytes host (opened s e) hs (hstate ▸ hb)]
        exact ⟨rfl, by simp [opened, Session.asked, Host.run_closeLibrary, Passage.calls]⟩
      | ok data =>
        rw [run_enforceThrough_ok host (opened s e) hs (hstate ▸ hb)]
        exact ⟨rfl, by simp [opened, Host.run_closeLibrary, Passage.calls, enteringCalls]⟩

theorem run_enforce_blob :
    ((enforce host (some (.blob path))).run s).1 = (passage host path s.state).verdict ∧
      ((enforce host (some (.blob path))).run s).2.calls =
        s.calls ++ (passage host path s.state).calls path :=
  run_enforceBlob host { s with events := s.events ++ [.enforcing (.blob path)] } path

/-! ## The ends of the way -/

section
variable {host path}
variable {state : σ}

theorem passage_noLibrary {e : Option Errno} {text : Option Bytes}
    (h : host.library library = .missing e text) : passage host path state = .noLibrary e := by
  simp [passage, h]

theorem passage_noEntry {e e' : Option Errno} {text : Option Bytes}
    (h : host.library library = .found e) (h' : host.symbol entryPoint = .missing e' text) :
    passage host path state = .noEntry e e' := by
  simp [passage, h, h']

theorem passage_noBytes {e e' set : Option Errno} (h : host.library library = .found e)
    (h' : host.symbol entryPoint = .found e') (hb : bytesAt host path state = .error set) :
    passage host path state = .noBytes set := by
  simp [passage, h, h', hb]

theorem passage_handedOver {e e' : Option Errno} {data : Bytes}
    (h : host.library library = .found e) (h' : host.symbol entryPoint = .found e')
    (hb : bytesAt host path state = .ok data) :
    passage host path state = .handedOver data (host.sandboxApply (.ofBytes data)) := by
  simp [passage, h, h', hb]

theorem passage_cases (host : Host σ) (path : Bytes) (state : σ) :
    (∃ e text, host.library library = .missing e text ∧
      passage host path state = .noLibrary e) ∨
    (∃ e e' text, host.library library = .found e ∧ host.symbol entryPoint = .missing e' text ∧
      passage host path state = .noEntry e e') ∨
    (∃ e e' set, host.library library = .found e ∧ host.symbol entryPoint = .found e' ∧
      bytesAt host path state = .error set ∧ passage host path state = .noBytes set) ∨
    ∃ e e' data, host.library library = .found e ∧ host.symbol entryPoint = .found e' ∧
      bytesAt host path state = .ok data ∧
      passage host path state = .handedOver data (host.sandboxApply (.ofBytes data)) := by
  cases hl : host.library library with
  | missing e text => exact .inl ⟨e, text, rfl, passage_noLibrary hl⟩
  | found e =>
    cases hs : host.symbol entryPoint with
    | missing e' text => exact .inr (.inl ⟨e, e', text, rfl, rfl, passage_noEntry hl hs⟩)
    | found e' =>
      cases hb : bytesAt host path state with
      | error set => exact .inr (.inr (.inl ⟨e, e', set, rfl, rfl, rfl, passage_noBytes hl hs hb⟩))
      | ok data => exact .inr (.inr (.inr ⟨e, e', data, rfl, rfl, rfl, passage_handedOver hl hs hb⟩))

theorem passage_eq_noEntry_iff {left e : Option Errno} :
    passage host path state = .noEntry left e ↔
      host.library library = .found left ∧ ∃ text, host.symbol entryPoint = .missing e text := by
  constructor
  · intro h
    rcases passage_cases host path state with ⟨_, _, _, hp⟩ | ⟨e₁, e₂, text, hl, hs, hp⟩ |
      ⟨_, _, _, _, _, _, hp⟩ | ⟨_, _, _, _, _, _, hp⟩ <;> rw [hp] at h <;> cases h
    exact ⟨hl, text, hs⟩
  · rintro ⟨hl, text, hs⟩
    exact passage_noEntry hl hs

theorem passage_eq_handedOver {data : Bytes} {reply : Reply}
    (h : passage host path state = .handedOver data reply) :
    host.contents path state = .ok data ∧ reply = host.sandboxApply (.ofBytes data) := by
  rcases passage_cases host path state with ⟨_, _, _, hp⟩ | ⟨_, _, _, _, _, hp⟩ |
    ⟨_, _, _, _, _, _, hp⟩ | ⟨e, e', data', _, _, hb, hp⟩ <;> rw [hp] at h <;> cases h
  exact ⟨((bytesAt_eq_ok host).mp hb).2, rfl⟩

end

/-- What a run that tries a blob comes to: the calls and the verdict `v` at each end of the way, and
the library released at every end that lies behind its opening. -/
structure Passes (host : Host σ) (path : Bytes) (state : σ) (v : Verdict) (calls : List HostCall) :
    Prop where
  noLibrary : ∀ e text, host.library library = .missing e text →
    calls = [.dlopen library Library.resolveNow] ∧
      v.rc = -1 ∧ v.message = some "dlopen libsandbox failed"
  noEntry : ∀ e e' text, host.library library = .found e →
    host.symbol entryPoint = .missing e' text →
    calls = [.dlopen library Library.resolveNow, .dlsym entryPoint, .dlclose] ∧
      v.rc = -1 ∧ v.message = some "dlsym sandbox_apply failed"
  pathHoldsNul : ∀ e e', host.library library = .found e → host.symbol entryPoint = .found e' →
    Library.holdsNul path = true →
    calls = [.dlopen library Library.resolveNow, .dlsym entryPoint, .dlclose] ∧
      v.rc = -2 ∧ v.message = some "failed to load blob"
  noBytes : ∀ e e' e'', host.library library = .found e → host.symbol entryPoint = .found e' →
    Library.holdsNul path = false → host.contents path state = .error e'' →
    calls = [.dlopen library Library.resolveNow, .dlsym entryPoint, .contents path, .dlclose] ∧
      v.rc = -2 ∧ v.message = some "failed to load blob"
  handedOver : ∀ e e' data, host.library library = .found e → host.symbol entryPoint = .found e' →
    Library.holdsNul path = false → host.contents path state = .ok data →
    calls = [.dlopen library Library.resolveNow, .dlsym entryPoint, .contents path,
        .sandboxApply ⟨none, data, data.length⟩, .dlclose] ∧
      v.rc = (host.sandboxApply ⟨none, data, data.length⟩).rc
  kind : v.kind = .blob
  message_eq_none : v.message = none ↔ ∃ given, .sandboxApply given ∈ calls
  errno_eq_none : v.message = none → v.rc = 0 → v.errno = none
  closedLast : ∀ e, host.library library = .found e →
    ∃ before, calls = before ++ [.dlclose] ∧ .dlclose ∉ before
  neverClosed : ∀ e text, host.library library = .missing e text → .dlclose ∉ calls

theorem not_mem_readingCalls (path : Bytes) (given : CompiledProfile) :
    .sandboxApply given ∉ readingCalls path ∧ .dlclose ∉ readingCalls path := by
  unfold readingCalls
  split <;> simp

theorem message_passage (p : Passage) (path : Bytes) :
    p.verdict.message = none ↔ ∃ given, .sandboxApply given ∈ p.calls path := by
  cases p with
  | noLibrary e => simp [Passage.verdict, Passage.calls]
  | noEntry e e' => simp [Passage.verdict, Passage.calls]
  | noBytes e => simp [Passage.verdict, Passage.calls, not_mem_readingCalls]
  | handedOver data reply => simp [Passage.verdict, Passage.calls, enteringCalls]

theorem errno_passage (p : Passage) (h : p.verdict.message = none) (h0 : p.verdict.rc = 0) :
    p.verdict.errno = none := by
  cases p with
  | handedOver data reply =>
    have hrc : reply.rc = 0 := h0
    simp [Passage.verdict, hrc]
  | _ => simp [Passage.verdict] at h

theorem closedLast_passage (p : Passage) (path : Bytes) (h : ∀ e, p ≠ .noLibrary e) :
    ∃ before, p.calls path = before ++ [.dlclose] ∧ .dlclose ∉ before := by
  cases p with
  | noLibrary e => exact absurd rfl (h e)
  | noEntry e e' => exact ⟨[.dlopen library Library.resolveNow, .dlsym entryPoint], rfl, by simp⟩
  | noBytes e => exact ⟨_, rfl, by simp [(not_mem_readingCalls path (.ofBytes [])).2]⟩
  | handedOver data reply =>
    exact ⟨[.dlopen library Library.resolveNow, .dlsym entryPoint, .contents path,
      .sandboxApply (.ofBytes data)], rfl, by simp⟩

theorem passage_passes (state : σ) :
    Passes host path state (passage host path state).verdict
      ((passage host path state).calls path) where
  noLibrary e text h := by
    rw [passage_noLibrary h]
    exact ⟨rfl, rfl, rfl⟩
  noEntry e e' text h h' := by
    rw [passage_noEntry h h']
    exact ⟨rfl, rfl, rfl⟩
  pathHoldsNul e e' h h' hn := by
    have hb : bytesAt host path state = .error none := by simp [bytesAt, hn]
    rw [passage_noBytes h h' hb]
    exact ⟨by simp [Passage.calls, readingCalls, hn], rfl, rfl⟩
  noBytes e e' e'' h h' hn hc := by
    have hb : bytesAt host path state = .error (some e'') := by simp [bytesAt, hn, hc]
    rw [passage_noBytes h h' hb]
    exact ⟨by simp [Passage.calls, readingCalls, hn], rfl, rfl⟩
  handedOver e e' data h h' hn hc := by
    rw [passage_handedOver h h' ((bytesAt_eq_ok host).mpr ⟨hn, hc⟩)]
    exact ⟨rfl, rfl⟩
  kind := by cases passage host path state <;> rfl
  message_eq_none := message_passage _ path
  errno_eq_none := errno_passage _
  closedLast e h := by
    apply closedLast_passage
    intro e' hp
    rcases passage_cases host path state with ⟨_, _, hl, _⟩ | ⟨_, _, _, _, _, hp'⟩ |
      ⟨_, _, _, _, _, _, hp'⟩ | ⟨_, _, _, _, _, _, hp'⟩
    · rw [hl] at h
      cases h
    all_goals
      rw [hp'] at hp
      cases hp
  neverClosed e text h := by
    rw [passage_noLibrary h]
    simp [Passage.calls]

/-- At each end of a blob's way its calls and its verdict are the ones that belong to that end, and a
library that was opened is closed once and last. None of it depends on what `errno` and the pending
text were at the start, nor on what closing the library does. -/
theorem enforce_passes (state : σ) (errno : Errno) (pending : Option Bytes) :
    let run := (enforce host (some (.blob path))).run (Session.start state errno pending)
    Passes host path state run.1 run.2.calls ∧
      ∀ (errno' : Errno) (pending' : Option Bytes) (closing : Reply),
        let other := (enforce { host with dlclose := closing } (some (.blob path))).run
          (Session.start state errno' pending')
        other.1 = run.1 ∧ other.2.calls = run.2.calls := by
  intro run
  have hrun : run.1 = (passage host path state).verdict ∧
      run.2.calls = (passage host path state).calls path :=
    run_enforce_blob host (Session.start state errno pending) path
  refine ⟨?_, ?_⟩
  · rw [hrun.1, hrun.2]
    exact passage_passes host path state
  · intro errno' pending' closing
    -- a passage is read off the host's answers, and closing the library is not among them
    have hother := run_enforce_blob { host with dlclose := closing }
      (Session.start state errno' pending') path
    rw [hrun.1, hrun.2]
    exact hother

/-! ## Whose error number a verdict shows -/

theorem attributes_passage (p : Passage) :
    (p.verdict.rc ≠ 0 → p.verdict.errno = p.set.bind Errno.nonzero?) ↔
      ¬ ((∃ left, p = .noEntry (some left) none ∧ left ≠ .zero) ∨ p = .noBytes (some .zero)) := by
  cases p with
  | noLibrary e => simp [Passage.verdict, Passage.set, Errno.nonzero?_getD_zero]
  | noEntry left e =>
    cases e with
    | some e => simp [Passage.verdict, Passage.set]
    | none =>
      cases left with
      | none => simp [Passage.verdict, Passage.set, Errno.nonzero?, Errno.zero]
      | some left => simp [Passage.verdict, Passage.set, Errno.nonzero?_eq_none_iff]
  | noBytes e =>
    cases e with
    | none => simp [Passage.verdict, Passage.set]
    | some e =>
      have hself : some e = e.nonzero? ↔ e ≠ .zero := by rw [eq_comm, Errno.nonzero?_eq_self_iff]
      simp [Passage.verdict, Passage.set, hself]
  | handedOver data reply =>
    simp only [reduceCtorEq, false_and, exists_false, or_self, not_false_eq_true, iff_true]
    intro h
    have hrc : reply.rc ≠ 0 := h
    simp [Passage.verdict, Passage.set, hrc, Errno.nonzero?_getD_zero]

/-- The error number of a verdict that does not hold is the one that the last step set, null where it
set none or 0, with two exceptions: a lookup that fails and sets none shows what opening the library
left, and a read that fails with 0 shows the 0. -/
theorem enforce_attributes_iff (state : σ) (errno : Errno) (pending : Option Bytes) :
    let verdict := ((enforce host (some (.blob path))).run (Session.start state errno pending)).1
    ((verdict.rc ≠ 0 →
        verdict.errno = (passage host path state).set.bind Errno.nonzero?) ↔
      ¬ ((∃ left text, host.library library = .found (some left) ∧ left ≠ .zero ∧
            host.symbol entryPoint = .missing none text) ∨
          passage host path state = .noBytes (some .zero))) ∧
    (∀ left text, host.library library = .found left → host.symbol entryPoint = .missing none text →
      verdict.errno = left.bind Errno.nonzero?) ∧
    ∀ set, passage host path state = .noBytes set → verdict.errno = set := by
  intro verdict
  have hv : verdict = (passage host path state).verdict :=
    (run_enforce_blob host (Session.start state errno pending) path).1
  rw [hv]
  refine ⟨?_, ?_, ?_⟩
  · rw [attributes_passage]
    simp only [passage_eq_noEntry_iff]
    apply not_congr
    apply or_congr_left
    constructor
    · rintro ⟨left, ⟨hl, text, hs⟩, hne⟩
      exact ⟨left, text, hl, hne, hs⟩
    · rintro ⟨left, text, hl, hne, hs⟩
      exact ⟨left, ⟨hl, text, hs⟩, hne⟩
  · intro left text hl hs
    rw [passage_noEntry hl hs]
    exact Errno.nonzero?_getD_zero left
  · intro set hp
    rw [hp]
    rfl

/-- Opening the library leaves 12 though it succeeds, the lookup fails and sets none, and the verdict
shows the 12. -/
theorem failed_lookup_shows_left_errno :
    let script : Script :=
      { errno := .zero, pending := none, clock := ⟨1700000000, 0⟩, owner := ⟨501, 20⟩, fd := 1000
        reply := fun _ => .ok, file := fun _ => .error .noEntry
        library := .found (some ⟨12⟩), symbol := fun _ => .missing none none }
    let verdict := (script.run (enforce · (some (.blob [0x62])))).1
    ¬ (verdict.rc ≠ 0 →
      verdict.errno = (passage script.host [0x62] ()).set.bind Errno.nonzero?) := by
  decide

end Profile

end SandboxProbe
