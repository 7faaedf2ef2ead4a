import SandboxProbe.Host.Session

/-!
# Steps of a session

What each action on a session gives and what it leaves behind, as one equation for each way that it
can go. A file call may move the host's state; the loader and the sandbox leave it alone.
`Session.Made` says of a run that its only calls were some file calls, in order.
-/

namespace SandboxProbe

variable {σ : Type}

namespace Action

variable {α β : Type}

theorem run_bind (a : Action σ α) (f : α → Action σ β) (s : Session σ) :
    (a >>= f).run s = (f (a.run s).1).run (a.run s).2 := rfl

theorem run_log (e : Event) (s : Session σ) :
    (log e).run s = ((), { s with events := s.events ++ [e] }) := rfl

theorem run_resetErrno (s : Session σ) :
    resetErrno.run s = ((), { s with errno := .zero }) := rfl

end Action

namespace Host

variable (host : Host σ) (s : Session σ)

theorem run_fileCall (call : FileCall) :
    (host.fileCall call).run s =
      ((host.file call s.state).1.rc,
        { s with
          state := (host.file call s.state).2
          errno := (host.file call s.state).1.errno.getD s.errno
          calls := s.calls ++ [.file call] }) := rfl

theorem run_closeLibrary :
    host.closeLibrary.run s =
      ((), { s with
        errno := host.dlclose.errno.getD s.errno
        calls := s.calls ++ [.dlclose] }) := rfl

end Host

/-! ## File calls in a row -/

theorem split_append {α : Type} {a b before rest : List α} {x : α}
    (h : a ++ b = before ++ x :: rest) :
    (∃ u, a = before ++ x :: u) ∨ ∃ u, before = a ++ u ∧ b = u ++ x :: rest := by
  rcases List.append_eq_append_iff.mp h with ⟨u, hu, hb⟩ | ⟨u, ha, hu⟩
  · exact .inr ⟨u, hu, hb⟩
  · cases u with
    | nil => exact .inr ⟨[], by simpa using ha.symm, by simpa using hu.symm⟩
    | cons y u =>
      obtain ⟨rfl, -⟩ := List.cons.inj hu
      exact .inl ⟨u, ha⟩

/-- The state of the host after some file calls. -/
def Host.after (host : Host σ) : List FileCall → σ → σ
  | [], state => state
  | call :: rest, state => after host rest (host.file call state).2

theorem after_append (host : Host σ) (a b : List FileCall) (state : σ) :
    host.after (a ++ b) state = host.after b (host.after a state) := by
  induction a generalizing state with
  | nil => rfl
  | cons call a ih => exact ih _

/-- From `s` to `s'` the file calls `made` were made, and no others. -/
def Session.Made (host : Host σ) (s s' : Session σ) (made : List FileCall) : Prop :=
  s'.calls = s.calls ++ made.map .file ∧ s'.state = host.after made s.state

namespace Session.Made

variable {host : Host σ} {s s' s'' : Session σ} {made more : List FileCall}

theorem nil (hc : s'.calls = s.calls) (hs : s'.state = s.state) : Made host s s' [] := by
  simp [Made, hc, hs, Host.after]

theorem append (h : Made host s s' made) (h' : Made host s' s'' more) :
    Made host s s'' (made ++ more) := by
  constructor
  · rw [h'.1, h.1, List.map_append, List.append_assoc]
  · rw [h'.2, h.2, after_append]

end Session.Made

end SandboxProbe
