import SandboxProbe.Host.Script
import SandboxProbe.Proofs.Enforcement
import SandboxProbe.Proofs.Text.Utf8

/-!
# A text profile never takes effect

Whether its file can be read as text (`Readable`) decides between the two ends of a text profile. The
error of opening or reading it is the only error number that a verdict shows.
-/

namespace SandboxProbe.Profile

variable {σ : Type}

/-- The path can name a file, and all of the file is UTF-8. -/
def Readable (host : Host σ) (path : Bytes) (state : σ) : Prop :=
  Library.holdsNul path = false ∧
    ∃ data, host.contents path state = .ok data ∧ Text.Utf8.WellFormed data

/-- What a run that tries a text profile comes to: the verdict `v` and the calls. -/
structure TextEnds (host : Host σ) (path : Bytes) (state : σ) (v : Verdict)
    (calls : List HostCall) : Prop where
  rc_ne_zero : v.rc ≠ 0
  kind : v.kind = .text
  unavailable : Readable host path state ↔
    v.rc = -1 ∧ v.errno = none ∧ v.message = some "sandbox facility unavailable on this platform"
  unread : ¬ Readable host path state ↔ v.rc = -2 ∧ v.message = some "failed to read sbpl"
  pathHoldsNul : Library.holdsNul path = true → v.errno = none ∧ calls = []
  noBytes : ∀ e, Library.holdsNul path = false → host.contents path state = .error e →
    v.errno = some e ∧ calls = [.contents path]
  someBytes : ∀ data, Library.holdsNul path = false → host.contents path state = .ok data →
    v.errno = none ∧ calls = [.contents path]

section
variable {host : Host σ} {path : Bytes} {state : σ}

theorem textVerdict_unread {data : Bytes} (h : ¬ Text.Utf8.WellFormed data) :
    textVerdict (.ok data) = ⟨-2, none, some "failed to read sbpl", .text⟩ := by
  have hdecode : Text.Utf8.decode? data = none := Text.Utf8.decode?_eq_none_iff.mpr h
  simp only [textVerdict, hdecode]

theorem textVerdict_unavailable {data : Bytes} (h : Text.Utf8.WellFormed data) :
    textVerdict (.ok data) =
      ⟨-1, none, some "sandbox facility unavailable on this platform", .text⟩ := by
  obtain ⟨text, hdecode⟩ := Text.Utf8.exists_decode?_iff.mpr h
  simp only [textVerdict, hdecode]

theorem textVerdict_of_readable (h : Readable host path state) :
    textVerdict (bytesAt host path state) =
      ⟨-1, none, some "sandbox facility unavailable on this platform", .text⟩ := by
  obtain ⟨hn, data, hc, hw⟩ := h
  rw [(bytesAt_eq_ok host).mpr ⟨hn, hc⟩, textVerdict_unavailable hw]

theorem textVerdict_of_not_readable (h : ¬ Readable host path state) :
    ∃ e, textVerdict (bytesAt host path state) = ⟨-2, e, some "failed to read sbpl", .text⟩ := by
  cases got : bytesAt host path state with
  | error e => exact ⟨e, rfl⟩
  | ok data =>
    obtain ⟨hn, hc⟩ := (bytesAt_eq_ok host).mp got
    exact ⟨none, textVerdict_unread fun hw => h ⟨hn, data, hc, hw⟩⟩

theorem textVerdict_errno (data : Bytes) : (textVerdict (.ok data)).errno = none := by
  by_cases hw : Text.Utf8.WellFormed data
  · rw [textVerdict_unavailable hw]
  · rw [textVerdict_unread hw]

theorem textVerdict_ends :
    TextEnds host path state (textVerdict (bytesAt host path state)) (readingCalls path) where
  rc_ne_zero := textVerdict_rc_ne_zero _
  kind := textVerdict_kind _
  unavailable := by
    by_cases h : Readable host path state
    · simp [h, textVerdict_of_readable h]
    · obtain ⟨e, he⟩ := textVerdict_of_not_readable h
      simp [h, he]
  unread := by
    by_cases h : Readable host path state
    · simp [h, textVerdict_of_readable h]
    · obtain ⟨e, he⟩ := textVerdict_of_not_readable h
      simp [h, he]
  pathHoldsNul hn := by
    have hb : bytesAt host path state = .error none := by simp [bytesAt, hn]
    rw [hb]
    exact ⟨rfl, by simp [readingCalls, hn]⟩
  noBytes e hn hc := by
    have hb : bytesAt host path state = .error (some e) := by simp [bytesAt, hn, hc]
    rw [hb]
    exact ⟨rfl, readingCalls_of_holdsNul hn⟩
  someBytes data hn hc := by
    rw [(bytesAt_eq_ok host).mpr ⟨hn, hc⟩]
    exact ⟨textVerdict_errno data, readingCalls_of_holdsNul hn⟩

end

section
variable (host : Host σ) (s : Session σ) (path : Bytes)

theorem run_enforce_text :
    ((enforce host (some (.text path))).run s).1 = textVerdict (bytesAt host path s.state) ∧
      ((enforce host (some (.text path))).run s).2.calls = s.calls ++ readingCalls path := by
  have hrun := run_enforceText host
    { s with events := s.events ++ [.enforcing (.text path)] } path
  constructor
  · exact congrArg Prod.fst hrun
  · exact congrArg (·.2.calls) hrun

/-- A text profile is never put in force. The verdict says that the facility is not there exactly if
the file is UTF-8 throughout, and else that it was not read; of the session before it, only the
host's state has a say in it. -/
theorem enforce_text_ends :
    let run := (enforce host (some (.text path))).run s
    (∃ calls, run.2.calls = s.calls ++ calls ∧ TextEnds host path s.state run.1 calls) ∧
      ∀ t : Session σ, t.state = s.state →
        ((enforce host (some (.text path))).run t).1 = run.1 := by
  intro run
  obtain ⟨hverdict, hcalls⟩ := run_enforce_text host s path
  constructor
  · refine ⟨readingCalls path, hcalls, ?_⟩
    rw [hverdict]
    exact textVerdict_ends
  · intro t ht
    rw [(run_enforce_text host t path).1, ht, ← hverdict]

end

/-- A character that breaks off at the end of the file is not text, and no error number is shown for
it although one was there before. -/
example :
    let script : Script :=
      { errno := .noEntry, pending := none, clock := ⟨0, 0⟩, owner := ⟨0, 0⟩, fd := 3
        reply := fun _ => .ok, file := fun _ => .ok [0x61, 0xE2, 0x82], library := .found none
        symbol := fun _ => .found none }
    (script.run (enforce · (some (.text [0x70])))).1 =
      ⟨-2, none, some "failed to read sbpl", .text⟩ :=
  rfl

end SandboxProbe.Profile
