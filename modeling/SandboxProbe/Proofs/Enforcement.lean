import SandboxProbe.Profile.Enforce
import SandboxProbe.Proofs.Session

/-!
# The ways through putting a profile in force

A text profile never takes effect. A blob has five ways: no library, no entry point, no bytes, and a
sandbox that refuses or takes them. Each way is one equation that gives the verdict and all that it
leaves in the session.
-/

namespace SandboxProbe

variable {σ : Type}

/-! ## Loading and looking up -/

/-- The session after the loader was asked and its text, if any, was taken. -/
def Session.asked (s : Session σ) (call : HostCall) (e : Option Errno) : Session σ :=
  { s with errno := e.getD s.errno, pending := none, calls := s.calls ++ [call] }

namespace Library

variable (host : Host σ) (s : Session σ)

theorem run_load_found {path : Bytes} (flags : Int32) {e : Option Errno}
    (hn : holdsNul path = false) (h : host.library path = .found e) :
    (load host path flags).run s =
      (.ok ⟨Text.Utf8.lossy path⟩,
        { s.asked (.dlopen path flags) e with events := s.events ++ [.libraryOpened path] }) := by
  simp only [load, hn, Host.dlopen, h]
  rfl

theorem run_load_missing {path : Bytes} (flags : Int32) {e : Option Errno} {text : Option Bytes}
    (hn : holdsNul path = false) (h : host.library path = .missing e text) :
    (load host path flags).run s =
      (.error (.cannotOpen (Text.Utf8.lossy path) (reasonOf text)),
        s.asked (.dlopen path flags) e) := by
  simp only [load, hn, Host.dlopen, h]
  rfl

theorem run_lookUp_found {name : String} {e : Option Errno}
    (hn : name.toList.contains '\x00' = false) (h : host.symbol name = .found e) :
    (lookUp host name).run s = (.ok (), s.asked (.dlsym name) e) := by
  simp only [lookUp, hn, Host.dlsym, h]
  rfl

theorem run_lookUp_missing {name : String} {e : Option Errno} {text : Option Bytes}
    (hn : name.toList.contains '\x00' = false) (h : host.symbol name = .missing e text) :
    (lookUp host name).run s =
      (.error (.noSymbol name (reasonOf text)), s.asked (.dlsym name) e) := by
  simp only [lookUp, hn, Host.dlsym, h]
  rfl

end Library

/-! ## The bytes of a profile -/

namespace Profile

variable (host : Host σ) (s : Session σ)

/-- What reading the file of a profile gives, or the error number that the failure leaves. -/
def bytesAt (path : Bytes) (state : σ) : Except (Option Errno) Bytes :=
  if Library.holdsNul path then .error none
  else
    match host.contents path state with
    | .ok data => .ok data
    | .error e => .error (some e)

/-- The calls that reading a profile makes: none where the path cannot name a file. -/
def readingCalls (path : Bytes) : List HostCall :=
  if Library.holdsNul path then [] else [.contents path]

theorem readingCalls_of_holdsNul {path : Bytes} (h : Library.holdsNul path = false) :
    readingCalls path = [.contents path] := by
  simp [readingCalls, h]

theorem bytesAt_eq_ok {path data : Bytes} {state : σ} :
    bytesAt host path state = .ok data ↔
      Library.holdsNul path = false ∧ host.contents path state = .ok data := by
  unfold bytesAt
  cases hn : Library.holdsNul path with
  | true => simp
  | false => cases hc : host.contents path state <;> simp

theorem run_fetch_ok {path data : Bytes} (h : bytesAt host path s.state = .ok data) :
    (fetch host path).run s = (.ok data, { s with calls := s.calls ++ [.contents path] }) := by
  obtain ⟨hn, hc⟩ := (bytesAt_eq_ok host).mp h
  simp [fetch, hn, Host.fetch, hc]
  rfl

theorem run_fetch_error {path : Bytes} {e : Option Errno}
    (h : bytesAt host path s.state = .error e) :
    (fetch host path).run s =
      (.error e,
        { s with errno := e.getD s.errno, calls := s.calls ++ readingCalls path }) := by
  unfold bytesAt at h
  cases hn : Library.holdsNul path with
  | true =>
    obtain rfl : none = e := by simpa [hn] using h
    simp [fetch, readingCalls, hn]
    rfl
  | false =>
    cases hc : host.contents path s.state with
    | ok data => simp [hn, hc] at h
    | error e' =>
      obtain rfl : some e' = e := by simpa [hn, hc] using h
      simp [fetch, readingCalls, hn, Host.fetch, hc]
      rfl

/-! ## Text profiles -/

/-- What became of a text profile whose file gives `got`. -/
def textVerdict : Except (Option Errno) Bytes → Verdict
  | .error e => ⟨-2, e, some "failed to read sbpl", .text⟩
  | .ok data =>
    match Text.Utf8.decode? data with
    | none => ⟨-2, none, some "failed to read sbpl", .text⟩
    | some _ => ⟨-1, none, some "sandbox facility unavailable on this platform", .text⟩

/-- What is left in `errno` by reading a text profile whose file gives `got`. -/
def textErrno : Except (Option Errno) Bytes → Errno
  | .error e => e.getD .zero
  | .ok _ => .zero

theorem run_enforceText (path : Bytes) :
    (enforceText host path).run s =
      (textVerdict (bytesAt host path s.state),
        { s with
          errno := textErrno (bytesAt host path s.state)
          calls := s.calls ++ readingCalls path }) := by
  simp only [enforceText, Action.run_bind, Action.run_resetErrno]
  cases got : bytesAt host path s.state with
  | error e =>
    rw [run_fetch_error host { s with errno := .zero } got]
    rfl
  | ok data =>
    rw [run_fetch_ok host { s with errno := .zero } got,
      readingCalls_of_holdsNul ((bytesAt_eq_ok host).mp got).1]
    cases hd : Text.Utf8.decode? data with
    | none => simp only [textVerdict, hd]; rfl
    | some text => simp only [textVerdict, hd]; rfl

theorem textVerdict_rc (got : Except (Option Errno) Bytes) :
    (textVerdict got).rc = -1 ∨ (textVerdict got).rc = -2 := by
  cases got with
  | error e => simp [textVerdict]
  | ok data => cases hd : Text.Utf8.decode? data <;> simp [textVerdict, hd]

theorem textVerdict_kind (got : Except (Option Errno) Bytes) : (textVerdict got).kind = .text := by
  cases got with
  | error e => rfl
  | ok data => cases hd : Text.Utf8.decode? data <;> simp [textVerdict, hd]

theorem textVerdict_rc_ne_zero (got : Except (Option Errno) Bytes) : (textVerdict got).rc ≠ 0 := by
  rcases textVerdict_rc got with h | h <;> simp [h]

/-! ## Blobs -/

/-- The path of the sandbox library as the loader takes it. -/
abbrev library : Bytes := Text.Utf8.encode libraryPath

theorem holdsNul_library : Library.holdsNul library = false := by decide

theorem entryPoint_noNul : entryPoint.toList.contains '\x00' = false := by decide

theorem run_enforceThrough_noEntry {path : Bytes} {e : Option Errno} {text : Option Bytes}
    (h : host.symbol entryPoint = .missing e text) :
    (enforceThrough host path).run s =
      (⟨-1, (e.getD s.errno).nonzero?, some "dlsym sandbox_apply failed", .blob⟩,
        { s.asked (.dlsym entryPoint) e with
          events := s.events ++
            [.symbolMissing (.noSymbol entryPoint (Library.reasonOf text))] }) := by
  rw [enforceThrough, Action.run_bind, Library.run_lookUp_missing host s entryPoint_noNul h]
  rfl

theorem run_enforceThrough_noBytes {path : Bytes} {e e' : Option Errno}
    (h : host.symbol entryPoint = .found e) (hb : bytesAt host path s.state = .error e') :
    (enforceThrough host path).run s =
      (⟨-2, e', some "failed to load blob", .blob⟩,
        { s.asked (.dlsym entryPoint) e with
          errno := e'.getD (e.getD s.errno)
          calls := s.calls ++ [.dlsym entryPoint] ++ readingCalls path }) := by
  rw [enforceThrough, Action.run_bind, Library.run_lookUp_found host s entryPoint_noNul h]
  simp only [Action.run_bind]
  rw [run_fetch_error host (s.asked (.dlsym entryPoint) e) hb]
  rfl

theorem run_enforceThrough_ok {path data : Bytes} {e : Option Errno}
    (h : host.symbol entryPoint = .found e) (hb : bytesAt host path s.state = .ok data) :
    (enforceThrough host path).run s =
      (⟨(host.sandboxApply (.ofBytes data)).rc,
          if (host.sandboxApply (.ofBytes data)).rc = 0 then none
          else ((host.sandboxApply (.ofBytes data)).errno.getD .zero).nonzero?,
          none, .blob⟩,
        { s.asked (.dlsym entryPoint) e with
          errno := (host.sandboxApply (.ofBytes data)).errno.getD .zero
          calls := s.calls ++ [.dlsym entryPoint] ++ [.contents path] ++
            [.sandboxApply (.ofBytes data)] }) := by
  rw [enforceThrough, Action.run_bind, Library.run_lookUp_found host s entryPoint_noNul h]
  simp only [Action.run_bind]
  rw [run_fetch_ok host (s.asked (.dlsym entryPoint) e) hb]
  rfl

theorem run_enforceBlob_noLibrary {path : Bytes} {e : Option Errno} {text : Option Bytes}
    (h : host.library library = .missing e text) :
    (enforceBlob host path).run s =
      (⟨-1, (e.getD .zero).nonzero?, some "dlopen libsandbox failed", .blob⟩,
        { s with
          errno := e.getD .zero
          pending := none
          calls := s.calls ++ [.dlopen library Library.resolveNow]
          events := s.events ++
            [.libraryUnavailable
              (.cannotOpen (Text.Utf8.lossy library) (Library.reasonOf text))] }) := by
  simp only [enforceBlob, Action.run_bind, Action.run_resetErrno]
  rw [Library.run_load_missing host { s with errno := .zero } _ holdsNul_library h]
  rfl

/-- The session once the sandbox library is open. -/
def opened (e : Option Errno) : Session σ :=
  { s with
    errno := e.getD .zero
    pending := none
    calls := s.calls ++ [.dlopen library Library.resolveNow]
    events := s.events ++ [.libraryOpened library] }

/-- An open library is closed last, whatever happened while it was open. -/
theorem run_enforceBlob_found {path : Bytes} {e : Option Errno}
    (h : host.library library = .found e) :
    (enforceBlob host path).run s =
      (((enforceThrough host path).run (opened s e)).1,
        (host.closeLibrary.run ((enforceThrough host path).run (opened s e)).2).2) := by
  simp only [enforceBlob, Action.run_bind, Action.run_resetErrno]
  rw [Library.run_load_found host { s with errno := .zero } _ holdsNul_library h]
  rfl

end Profile

end SandboxProbe
