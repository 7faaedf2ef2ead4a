import Mathlib.Data.List.TakeDrop
import SandboxProbe.Log.Pattern

/-!
# Reading patterns

Every step of the reader leaves a rest of its text, so the length of a text is steps enough, and no two
groups of a pattern have one name. A text without marks is a pattern, and parentheses may be nested as
deep as the bound.
-/

namespace SandboxProbe.Pattern

/-! ## Rests of texts -/

theorem span_eq {s a b : List Char} {p : Char → Bool} (h : s.span p = (a, b)) :
    s = a ++ b ∧ (∀ c ∈ a, p c) ∧ ∀ c ∈ b.head?, ¬ p c := by
  rw [List.span_eq_takeWhile_dropWhile, Prod.mk.injEq] at h
  obtain ⟨rfl, rfl⟩ := h
  refine ⟨List.takeWhile_append_dropWhile.symm, fun c hc => ?_, fun c hc => ?_⟩
  · exact List.all_eq_true.mp List.all_takeWhile c hc
  · have := List.head?_dropWhile_not p s
    rw [Option.mem_def.mp hc] at this
    simpa using this

theorem span_append {a b : List Char} {p : Char → Bool} (ha : ∀ c ∈ a, p c)
    (hb : ∀ c ∈ b.head?, ¬ p c) : (a ++ b).span p = (a, b) := by
  have hb : b.takeWhile p = [] ∧ b.dropWhile p = b := by
    cases b with
    | nil => exact ⟨rfl, rfl⟩
    | cons c b =>
      rw [List.takeWhile_cons_of_neg (hb c rfl), List.dropWhile_cons_of_neg (hb c rfl)]
      exact ⟨rfl, rfl⟩
  rw [List.span_eq_takeWhile_dropWhile, List.takeWhile_append_of_pos ha, List.dropWhile_append_of_pos ha,
    hb.1, hb.2, List.append_nil]

theorem span_of_all {s : List Char} {p : Char → Bool} (h : ∀ c ∈ s, p c) : s.span p = (s, []) := by
  conv_lhs => rw [← List.append_nil s]
  exact span_append h (by simp)

theorem suffix_of_span {s a b : List Char} {p : Char → Bool} (h : s.span p = (a, b)) : b <:+ s := by
  rw [(span_eq h).1]
  exact List.suffix_append a b

namespace Flags

theorem skipFrom_suffix (comment : Bool) (s : List Char) : skipFrom comment s <:+ s := by
  induction s generalizing comment with
  | nil => cases comment <;> exact List.suffix_refl _
  | cons c r ih =>
    cases comment with
    | true => exact (ih _).trans (List.suffix_cons c r)
    | false =>
      unfold skipFrom
      split
      · exact (ih false).trans (List.suffix_cons c r)
      · split
        · exact (ih true).trans (List.suffix_cons c r)
        · exact List.suffix_refl _

theorem skip_suffix (f : Flags) (s : List Char) : f.skip s <:+ s := by
  unfold skip
  split
  · exact skipFrom_suffix false s
  · exact List.suffix_refl s

end Flags

/-! ## Openings -/

namespace Opening

variable {f : Flags} {s r : List Char} {o : Opening}

/-- A name that an opening gives a group is the name of a group. -/
def Named (o : Opening) : Prop :=
  ∀ flags name, o = .group flags (some name) → isName name

theorem named?_spec (h : named? f s = some (o, r)) : r <:+ s ∧ o.Named := by
  unfold named? at h
  split at h
  · rename_i name _ _ hspan
    split at h
    · cases h
      refine ⟨(List.suffix_cons _ _).trans (suffix_of_span hspan), fun flags other ho => ?_⟩
      cases ho
      assumption
    · cases h
  · cases h

theorem marked?_spec (h : marked? f s = some (o, r)) : r <:+ s ∧ o.Named := by
  unfold marked? at h
  split at h
  · rename_i marks c rest hspan
    have rest_suffix : rest <:+ s := (List.suffix_cons _ _).trans (suffix_of_span hspan)
    split at h
    · cases h
    split at h
    · cases h
      exact ⟨rest_suffix, fun _ _ ho => nomatch ho⟩
    split at h
    · cases h
    · cases h
      exact ⟨rest_suffix, fun _ _ ho => nomatch ho⟩
  · cases h

theorem ofText?_spec (h : ofText? f s = some (o, r)) : r <:+ s ∧ o.Named := by
  have skipped := f.skip_suffix s
  unfold ofText? at h
  split at h
  · rename_i rest hskip
    rw [hskip] at skipped
    obtain ⟨hr, named⟩ := named?_spec h
    exact ⟨(hr.trans (List.suffix_append ['?', 'P', '<'] rest)).trans skipped, named⟩
  · rename_i rest hskip
    rw [hskip] at skipped
    obtain ⟨hr, named⟩ := named?_spec h
    exact ⟨(hr.trans (List.suffix_append ['?', '<'] rest)).trans skipped, named⟩
  · rename_i rest _ _ hskip
    rw [hskip] at skipped
    obtain ⟨hr, named⟩ := marked?_spec h
    exact ⟨(hr.trans (List.suffix_cons '?' rest)).trans skipped, named⟩
  · cases h
    exact ⟨skipped, fun _ _ ho => nomatch ho⟩

end Opening

/-! ## Atoms -/

namespace Atom

variable {f : Flags} {c : Char} {s r rest : List Char} {a : Atom}

theorem hexDigits?_suffix {n : Nat} {digits : List Nat} (h : hexDigits? f n s = some (digits, rest)) :
    rest <:+ s := by
  induction n generalizing s digits with
  | zero =>
    cases h
    exact List.suffix_refl _
  | succ n ih =>
    have skipped := f.skip_suffix s
    unfold hexDigits? at h
    split at h
    · cases h
    · rename_i c r hskip
      rw [hskip] at skipped
      obtain ⟨d, -, h⟩ := Option.bind_eq_some_iff.mp h
      obtain ⟨⟨ds, r'⟩, hr, h⟩ := Option.bind_eq_some_iff.mp h
      cases h
      exact ((ih hr).trans (List.suffix_cons c r)).trans skipped

theorem ofEscape?_suffix (h : ofEscape? f s = some (a, rest)) : rest <:+ s := by
  cases s with
  | nil => cases h
  | cons c r =>
    refine List.IsSuffix.trans ?_ (List.suffix_cons c r)
    simp only [ofEscape?] at h
    split at h
    · obtain ⟨b, -, h⟩ := Option.map_eq_some_iff.mp h
      cases h
      exact List.suffix_refl _
    · obtain ⟨⟨digits, r'⟩, hr, h⟩ := Option.bind_eq_some_iff.mp h
      obtain ⟨d, -, h⟩ := Option.bind_eq_some_iff.mp h
      cases h
      exact hexDigits?_suffix hr

theorem ofMember?_suffix (h : ofMember? f c r = some (a, rest)) : rest <:+ r := by
  unfold ofMember? at h
  split at h
  · exact ofEscape?_suffix h
  · cases h
    exact List.suffix_refl _

theorem afterMember?_suffix (h : afterMember? f c r = some rest) : rest <:+ r := by
  obtain ⟨⟨first, r'⟩, hfirst, h⟩ := Option.bind_eq_some_iff.mp h
  have behind : f.skip r' <:+ r := (f.skip_suffix r').trans (ofMember?_suffix hfirst)
  simp only at h
  split at h
  · rename_i after hskip
    rw [hskip] at behind
    split at h
    · split at h
      · cases h
        exact behind
      · cases h
    · have last : f.skip after <:+ r :=
        ((f.skip_suffix after).trans (List.suffix_cons '-' after)).trans behind
      split at h
      · cases h
      · rename_i d r'' hskip'
        rw [hskip'] at last
        obtain ⟨⟨member, rest'⟩, hlast, h⟩ := Option.bind_eq_some_iff.mp h
        simp only at h
        split at h
        · cases h
          exact ((ofMember?_suffix hlast).trans (List.suffix_cons d r'')).trans last
        · cases h
  · split at h
    · cases h
      exact behind
    · cases h

end Atom

theorem namedClass?_suffix {complement : Bool} {s rest : List Char}
    (h : namedClass? s = some (complement, rest)) : rest <:+ s := by
  unfold namedClass? at h
  split at h
  · rename_i r
    have tail_suffix : (if r.head? = some '^' then r.tail else r) <:+ ':' :: r := by
      refine List.IsSuffix.trans ?_ (List.suffix_cons ':' r)
      split
      · exact List.tail_suffix r
      · exact List.suffix_refl r
    simp only at h
    split at h
    · rename_i hspan
      split at h
      · cases h
        exact ((List.suffix_append [':', ']'] _).trans (suffix_of_span hspan)).trans tail_suffix
      · cases h
    · cases h
  · cases h

/-! ## Steps -/

namespace Reader

/-- What a step does: it leaves a rest `s` of the text `r`, and it adds at most one name of a group, which
is new. -/
structure Goes (p : Reader) (r : List Char) (q : Reader) (s : List Char) : Prop where
  rest : s <:+ r
  names : q.names = p.names ∨ ∃ name, isName name ∧ name ∉ p.names ∧ q.names = name :: p.names

variable {p q : Reader} {c : Char} {r s : List Char}

theorem goes_opening {o : Opening} {f : Flags} (ho : Opening.ofText? f r = some (o, s))
    (h : p.open? o = some q) : Goes p r q s := by
  obtain ⟨rest, named⟩ := Opening.ofText?_spec ho
  refine ⟨rest, ?_⟩
  cases o with
  | setting flags =>
    cases h
    exact .inl rfl
  | group flags name =>
    simp only [open?] at h
    split at h
    · cases h
    · rename_i fresh
      cases h
      cases name with
      | none => exact .inl rfl
      | some name => exact .inr ⟨name, named flags name rfl, by simpa using fresh, rfl⟩

theorem addAtom?_names {a : Atom} (h : p.addAtom? a = some q) : q.names = p.names := by
  unfold addAtom? at h
  split at h
  · cases h
    rfl
  · cases h

theorem close?_names (h : p.close? = some q) : q.names = p.names := by
  unfold close? at h
  split at h
  · cases h
  · cases h
    rfl

theorem goes_openClass (h : p.openClass? r = some (q, s)) : Goes p r q s := by
  have skipped := p.flags.skip_suffix r
  unfold openClass? at h
  split at h
  rename_i complement rest hskip
  have rest_suffix : rest <:+ r := by
    refine List.IsSuffix.trans ?_ skipped
    split at hskip <;> cases hskip
    · rename_i hc
      rw [hc]
      exact List.suffix_cons _ _
    · exact List.suffix_refl _
  split at h
  · cases h
  · cases h
    exact ⟨rest_suffix, .inl rfl⟩

theorem goes_stepOutside (h : p.stepOutside? c r = some (q, s)) : Goes p r q s := by
  unfold stepOutside? at h
  split at h
  · obtain ⟨⟨o, r'⟩, ho, h⟩ := Option.bind_eq_some_iff.mp h
    obtain ⟨q', hopen, h⟩ := Option.bind_eq_some_iff.mp h
    cases h
    exact goes_opening ho hopen
  split at h
  · obtain ⟨q', hclose, h⟩ := Option.map_eq_some_iff.mp h
    cases h
    exact ⟨List.suffix_refl _, .inl (close?_names hclose)⟩
  split at h
  · cases h
    exact ⟨List.suffix_refl _, .inl rfl⟩
  split at h
  · obtain ⟨group, -, h⟩ := Option.map_eq_some_iff.mp h
    cases h
    refine ⟨?_, .inl rfl⟩
    split
    · exact List.tail_suffix r
    · exact List.suffix_refl r
  split at h
  · cases h
  split at h
  · exact goes_openClass h
  split at h
  · obtain ⟨⟨a, r'⟩, ha, h⟩ := Option.bind_eq_some_iff.mp h
    obtain ⟨q', hadd, h⟩ := Option.bind_eq_some_iff.mp h
    cases h
    exact ⟨Atom.ofEscape?_suffix ha, .inl (addAtom?_names hadd)⟩
  · obtain ⟨q', hadd, h⟩ := Option.map_eq_some_iff.mp h
    cases h
    exact ⟨List.suffix_refl _, .inl (addAtom?_names hadd)⟩

theorem closeClass_names (k : Class) (outer : List Class) : (p.closeClass k outer).names = p.names := by
  cases outer <;> rfl

theorem goes_stepInside {k : Class} {outer : List Class}
    (h : p.stepInside? k outer c r = some (q, s)) : Goes p r q s := by
  unfold stepInside? at h
  simp only at h
  split at h
  · split at h
    · cases h
      exact ⟨List.suffix_refl _, .inl rfl⟩
    · cases h
  split at h
  · split at h
    · cases h
      exact ⟨List.suffix_refl _, .inl rfl⟩
    · cases h
  split at h
  · cases h
    exact ⟨List.suffix_refl _, .inl (closeClass_names k outer)⟩
  split at h
  · split at h
    · rename_i hnamed
      split at h
      · cases h
        exact ⟨namedClass?_suffix hnamed, .inl rfl⟩
      · cases h
    · have opened := goes_openClass h
      exact ⟨opened.rest, opened.names⟩
  split at h
  · cases h
    exact ⟨List.tail_suffix r, .inl rfl⟩
  · obtain ⟨rest, hafter, h⟩ := Option.map_eq_some_iff.mp h
    cases h
    exact ⟨Atom.afterMember?_suffix hafter, .inl rfl⟩

theorem goes_step (h : p.step? c r = some (q, s)) : Goes p r q s := by
  unfold step? at h
  split at h
  · exact goes_stepOutside h
  · exact goes_stepInside h

/-! ## Runs -/

theorem run?_nil {n : Nat} (h : p.flags.skip s = []) : run? n p s = some p := by
  unfold run?
  simp only [h]

theorem run?_cons {n : Nat} (h : p.flags.skip s = c :: r) :
    run? (n + 1) p s = (p.step? c r).bind fun (q, s') => run? n q s' := by
  conv => lhs; unfold run?
  simp only [h]

theorem run?_zero (h : p.flags.skip s = c :: r) : run? 0 p s = none := by
  unfold run?
  simp only [h]

theorem run?_eq_run? {n m : Nat} (hn : s.length ≤ n) (hm : s.length ≤ m) : run? n p s = run? m p s := by
  induction n generalizing m p s with
  | zero =>
    have hs : p.flags.skip s = [] := by
      rw [List.eq_nil_of_length_eq_zero (Nat.le_zero.mp hn)]
      exact List.suffix_nil.mp (p.flags.skip_suffix [])
    rw [run?_nil hs, run?_nil hs]
  | succ n ih =>
    cases hs : p.flags.skip s with
    | nil => rw [run?_nil hs, run?_nil hs]
    | cons c r =>
      have shorter : r.length + 1 ≤ s.length := by
        have := (p.flags.skip_suffix s).length_le
        rwa [hs] at this
      obtain ⟨m, rfl⟩ : ∃ k, m = k + 1 := ⟨m - 1, by omega⟩
      rw [run?_cons hs, run?_cons hs]
      cases hstep : p.step? c r with
      | none => rfl
      | some next =>
        have := (goes_step hstep).rest.length_le
        exact ih (by omega) (by omega)

/-- Names of groups are read in a run one after the other, each of them new. -/
theorem run?_names {n : Nat} (h : run? n p s = some q) (hp : p.names.Nodup)
    (named : ∀ name ∈ p.names, isName name) : q.names.Nodup ∧ ∀ name ∈ q.names, isName name := by
  induction n generalizing p s with
  | zero =>
    cases hs : p.flags.skip s with
    | nil =>
      rw [run?_nil hs] at h
      cases h
      exact ⟨hp, named⟩
    | cons c r =>
      rw [run?_zero hs] at h
      cases h
  | succ n ih =>
    cases hs : p.flags.skip s with
    | nil =>
      rw [run?_nil hs] at h
      cases h
      exact ⟨hp, named⟩
    | cons c r =>
      rw [run?_cons hs] at h
      obtain ⟨⟨p', s'⟩, hstep, h⟩ := Option.bind_eq_some_iff.mp h
      rcases (goes_step hstep).names with same | ⟨name, hname, fresh, added⟩
      · exact ih h (same ▸ hp) (same ▸ named)
      · refine ih h (added ▸ List.nodup_cons.mpr ⟨fresh, hp⟩) ?_
        rw [added]
        simpa [hname] using named

end Reader

theorem isPattern_eq {n : Nat} {s : List Char} (h : s.length ≤ n) :
    isPattern s = (Reader.begun.run? n s).any Reader.isFinished := by
  rw [isPattern, Reader.run?_eq_run? (Nat.le_refl _) h]

/-- A pattern has been read to its end, with no two groups of one name. -/
theorem names_of_isPattern {s : List Char} (h : isPattern s) :
    ∃ p, Reader.begun.run? s.length s = some p ∧ p.isFinished ∧ p.names.Nodup ∧
      ∀ name ∈ p.names, isName name := by
  unfold isPattern at h
  cases hrun : Reader.begun.run? s.length s with
  | none =>
    rw [hrun] at h
    cases h
  | some p =>
    rw [hrun] at h
    exact ⟨p, rfl, h, Reader.run?_names hrun List.nodup_nil (by simp [Reader.begun])⟩

/-! ## Texts without marks -/

def marks : List Char := ['(', ')', '|', '?', '*', '+', '\x7b', '[', '\\']

/-- A character that stands for itself, or for any or none, outside of classes. -/
def isPlain (c : Char) : Bool :=
  !marks.contains c

namespace Reader

def withAtoms (p : Reader) (n : Nat) : Reader :=
  { p with group := { p.group with items := List.replicate n ⟨0, true⟩ ++ p.group.items } }

theorem withAtoms_succ (p : Reader) (n : Nat) : (p.add ⟨0, true⟩).withAtoms n = p.withAtoms (n + 1) := by
  simp [withAtoms, add, Group.add, List.replicate_succ']

theorem step?_plain {p : Reader} {c : Char} (hf : p.flags = .initial) (hk : p.classes = [])
    (hc : isPlain c) (r : List Char) : p.step? c r = some (p.add ⟨0, true⟩, r) := by
  simp only [isPlain, marks, Bool.not_eq_true', List.contains_eq_mem, List.mem_cons, List.not_mem_nil,
    or_false, decide_eq_false_iff_not, not_or] at hc
  have stands (a : Atom) (ha : a.mayStand .initial) : p.addAtom? a = some (p.add ⟨0, true⟩) := by
    rw [addAtom?, hf, if_pos ha]
  simp only [step?, hk, stepOutside?, hc, or_self, if_false]
  split
  · rw [stands .any rfl]
    rfl
  · split
    · rw [stands .edge rfl]
      rfl
    · rw [stands (.character c) rfl]
      rfl

theorem run?_plain {p : Reader} (hf : p.flags = .initial) (hk : p.classes = []) {s : List Char}
    (hs : ∀ c ∈ s, isPlain c) : run? s.length p s = some (p.withAtoms s.length) := by
  induction s generalizing p with
  | nil => exact run?_nil (by rw [hf]; rfl)
  | cons c r ih =>
    have hskip : p.flags.skip (c :: r) = c :: r := by rw [hf]; rfl
    rw [List.length_cons, run?_cons hskip, step?_plain hf hk (hs c List.mem_cons_self) r,
      Option.bind_some, ← withAtoms_succ]
    exact ih hf hk fun x hx => hs x (List.mem_cons_of_mem c hx)

end Reader

theorem foldl_max_replicate_zero (n : Nat) : (List.replicate n 0).foldl max 0 = 0 := by
  induction n with
  | zero => rfl
  | succ n ih => exact ih

theorem isPattern_of_isPlain {s : List Char} (hs : ∀ c ∈ s, isPlain c) : isPattern s := by
  have hrun := Reader.run?_plain (p := .begun) rfl rfl hs
  have low : sequenceHeight (List.replicate s.length 0) ≤ 1 := by
    match s.length with
    | 0 | 1 => simp [sequenceHeight]
    | n + 2 =>
      simp only [List.replicate_succ, sequenceHeight]
      exact Nat.le_of_eq (congrArg (· + 1) (foldl_max_replicate_zero (n + 1)))
  rw [isPattern, hrun]
  simp [Reader.isFinished, Reader.withAtoms, Reader.begun, Group.height, Group.branchHeight, Group.begun,
    besideHeight, highest]
  omega

/-! ## Nesting -/

namespace Reader

/-- The reader inside of `n` parentheses. -/
def inside (n : Nat) : Reader :=
  { begun with outer := List.replicate n (.begun .initial) }

/-- The reader behind `m` parentheses that are closed, inside of `n` that are not. -/
def behind (m n : Nat) : Reader :=
  { inside n with group := (Group.begun .initial).add ⟨m, true⟩ }

theorem step?_open (n : Nat) {r : List Char} (hr : r.head? ≠ some '?') :
    (inside n).step? '(' r = some (inside (n + 1), r) := by
  have opening : Opening.ofText? .initial r = some (.group .initial none, r) := by
    cases r with
    | nil => rfl
    | cons c r =>
      have hc : c ≠ '?' := fun h => hr (congrArg some h)
      simp [Opening.ofText?, Flags.skip, Flags.initial, hc]
  simp only [step?, inside, begun, stepOutside?, if_true, opening]
  rfl

theorem step?_close (n : Nat) (r : List Char) :
    (inside (n + 1)).step? ')' r = some (behind 1 n, r) := rfl

theorem step?_close_again (m n : Nat) (r : List Char) :
    (behind m (n + 1)).step? ')' r = some (behind (m + 1) n, r) := rfl

theorem run?_opens (k : Nat) {n : Nat} {t : List Char} (ht : t.head? ≠ some '?') :
    run? (k + t.length) (inside n) (List.replicate k '(' ++ t) = run? t.length (inside (n + k)) t := by
  induction k generalizing n with
  | zero => simp
  | succ k ih =>
    have behind_it : (List.replicate k '(' ++ t).head? ≠ some '?' := by
      cases k with
      | zero => exact ht
      | succ k => simp [List.replicate_succ]
    rw [List.replicate_succ, List.cons_append, Nat.add_right_comm, run?_cons rfl, step?_open n behind_it,
      Option.bind_some]
    simp only
    rw [ih, Nat.add_right_comm, Nat.add_assoc]

theorem run?_closes (k m n : Nat) :
    run? k (behind m (n + k)) (List.replicate k ')') = some (behind (m + k) n) := by
  induction k generalizing m with
  | zero => rfl
  | succ k ih =>
    rw [List.replicate_succ, run?_cons rfl, ← Nat.add_assoc, step?_close_again, Option.bind_some]
    simp only
    rw [ih, Nat.add_right_comm, Nat.add_assoc]

end Reader

/-- Parentheses in parentheses are a pattern as long as they are not nested too deep. -/
theorem isPattern_nested_iff (n : Nat) :
    isPattern (List.replicate n '(' ++ List.replicate n ')') ↔ n ≤ highest := by
  cases n with
  | zero => decide
  | succ n =>
    have opens := Reader.run?_opens (n + 1) (n := 0) (t := List.replicate (n + 1) ')')
      (by simp [List.replicate_succ])
    have closes := Reader.run?_closes n 1 0
    rw [Nat.zero_add, Nat.add_comm 1 n] at closes
    have hrun : Reader.begun.run? (n + 1 + (n + 1))
        (List.replicate (n + 1) '(' ++ List.replicate (n + 1) ')') = some (Reader.behind (n + 1) 0) := by
      rw [List.length_replicate] at opens
      rw [show Reader.begun = Reader.inside 0 from rfl, opens, List.replicate_succ, Reader.run?_cons rfl,
        Nat.zero_add, Reader.step?_close, Option.bind_some]
      exact closes
    rw [isPattern_eq (n := n + 1 + (n + 1)) (by simp), hrun]
    simp [Reader.isFinished, Reader.behind, Reader.inside, Reader.begun, Group.height, Group.branchHeight,
      Group.begun, Group.add, sequenceHeight, besideHeight]

end SandboxProbe.Pattern
