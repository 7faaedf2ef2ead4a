import Mathlib.Data.List.Induction
import SandboxProbe.Log.Filter
import SandboxProbe.Proofs.Text.Characters

/-!
# What a filter decides

Of the directives that are for an event the last of the most exact ones decides, and the others change
nothing. A filter is read piece by piece between its commas, and one piece that is no directive spoils it.
-/

namespace SandboxProbe

/-! ## Verbosity -/

namespace Verbosity

theorem admits_of_rank_le {v : Verbosity} {level other : Level} (h : v.admits level)
    (hr : other.rank ≤ level.rank) : v.admits other := by
  cases v with
  | none => cases h
  | some least =>
    simp only [admits, decide_eq_true_eq] at h ⊢
    exact Nat.le_trans hr h

theorem map_toLower_of_number? {s : List Char} {n : Nat} (h : number? s = some n) :
    s.map Char.toLower = s := by
  have digits : (Text.Digits.dropPlus s).map Char.toLower = Text.Digits.dropPlus s := by
    simp only [number?] at h
    split at h
    · rename_i hd
      exact (List.map_congr_left fun c hc =>
        Text.Digits.toLower_of_isDecimal (List.all_eq_true.mp hd.2 c hc)).trans (List.map_id _)
    · cases h
  unfold Text.Digits.dropPlus at digits
  split at digits
  · rw [List.map_cons, digits]
    rfl
  · exact digits

theorem lookup_words {word : String} {v : Verbosity} :
    words.lookup word = some v ↔ (word, v) ∈ words := by
  constructor
  · intro h
    obtain ⟨before, after, hw, -⟩ := List.lookup_eq_some_iff.mp h
    rw [hw]
    simp
  · intro h
    simp only [words, List.mem_cons, List.not_mem_nil, or_false, Prod.mk.injEq] at h
    rcases h with ⟨rfl, rfl⟩ | ⟨rfl, rfl⟩ | ⟨rfl, rfl⟩ | ⟨rfl, rfl⟩ | ⟨rfl, rfl⟩ | ⟨rfl, rfl⟩ <;> rfl

/-- A verbosity is read from its number, or from its word in any case. -/
theorem ofText?_eq_some_iff {s : List Char} {v : Verbosity} :
    ofText? s = some v ↔ (∃ n, number? s = some n ∧ ofNumber? n = some v) ∨
      ∃ word, (word, v) ∈ words ∧ s.map Char.toLower = word.toList := by
  unfold ofText?
  cases hn : number? s with
  | some n =>
    constructor
    · exact fun h => .inl ⟨n, rfl, h⟩
    · rintro (⟨m, hm, hv⟩ | ⟨word, hw, hs⟩)
      · cases hm
        exact hv
      · have wordless : ∀ w ∈ words, number? w.1.toList = none := by decide
        have := wordless _ hw
        rw [← hs, map_toLower_of_number? hn, hn] at this
        cases this
  | none =>
    simp only [lookup_words]
    constructor
    · exact fun h => .inr ⟨_, h, String.toList_ofList.symm⟩
    · rintro (⟨m, hm, -⟩ | ⟨word, hw, hs⟩)
      · cases hm
      · rwa [hs, String.ofList_toList]

end Verbosity

/-! ## The directive that decides -/

namespace Directive

variable {a b c : Directive}

theorem outranks_iff :
    a.outranks b ↔ b.length < a.length ∨ a.length = b.length ∧ b.fieldName < a.fieldName := by
  simp [outranks]

theorem outranks_asymm (h : a.outranks b) : ¬ b.outranks a := by
  rw [outranks_iff] at h ⊢
  rintro (hl | ⟨hl, hf⟩)
  · omega
  · rcases h with h | ⟨-, h⟩
    · omega
    · exact String.lt_irrefl _ (String.lt_trans h hf)

/-- A directive that outranks another one outranks all that do not outrank that other one. -/
theorem outranks_of_not_outranks (h : a.outranks b) (hc : ¬ c.outranks b) : a.outranks c := by
  rw [outranks_iff] at h hc ⊢
  rw [not_or, not_and] at hc
  obtain ⟨hl, hf⟩ := hc
  rcases h with h | ⟨h, hab⟩
  · exact .inl (by omega)
  · by_cases heq : c.length = b.length
    · exact .inr ⟨by omega, Std.lt_of_le_of_lt (String.not_lt.mp (hf heq)) hab⟩
    · exact .inl (by omega)

theorem outranks_trans (h : a.outranks b) (h' : b.outranks c) : a.outranks c :=
  outranks_of_not_outranks h (outranks_asymm h')

end Directive

namespace Filter

variable {f : Filter} {e : Event} {d : Directive} {ds : List Directive}

/-- Of some directives `d` is for the event, none before it that is for the event is more exact, and
all that are for the event behind it are less exact. -/
def Decides (ds : List Directive) (e : Event) (d : Directive) : Prop :=
  ∃ before after, ds = before ++ d :: after ∧ d.covers e ∧
    (∀ other ∈ before, other.covers e → ¬ other.outranks d) ∧
    ∀ other ∈ after, other.covers e → d.outranks other

theorem Decides.unique {d' : Directive} (h : Decides ds e d) (h' : Decides ds e d') : d = d' := by
  obtain ⟨before, after, rfl, covers, earlier, later⟩ := h
  obtain ⟨before', after', same, covers', earlier', later'⟩ := h'
  rcases List.append_eq_append_iff.mp same with ⟨between, rfl, hb⟩ | ⟨between, rfl, hb⟩
  · cases between with
    | nil => exact (List.cons.inj hb).1
    | cons x between =>
      obtain ⟨rfl, rfl⟩ := List.cons.inj hb
      exact absurd (later d' (by simp) covers') (earlier' d (by simp) covers)
  · cases between with
    | nil => exact (List.cons.inj hb).1.symm
    | cons x between =>
      obtain ⟨rfl, rfl⟩ := List.cons.inj hb
      exact absurd (later' d (by simp) covers) (earlier d' (by simp) covers')

theorem decisive?_snoc (ds : List Directive) (x : Directive) (e : Event) :
    decisive? ⟨ds ++ [x]⟩ e =
      if x.covers e then some ((decisive? ⟨ds⟩ e).elim x (better · x)) else decisive? ⟨ds⟩ e := by
  simp only [decisive?, List.filter_append, List.foldl_append]
  by_cases h : x.covers e
  · simp [h]
  · simp [h]

theorem decides_snoc_skip {x : Directive} (hx : ¬ x.covers e) (h : Decides ds e d) :
    Decides (ds ++ [x]) e d := by
  obtain ⟨before, after, rfl, covers, earlier, later⟩ := h
  refine ⟨before, after ++ [x], by simp, covers, earlier, fun other hmem hc => ?_⟩
  rcases List.mem_append.mp hmem with hmem | hmem
  · exact later other hmem hc
  · obtain rfl := List.mem_singleton.mp hmem
    exact absurd hc hx

theorem decides_snoc {x : Directive} (hx : x.covers e) (h : Decides ds e d) :
    Decides (ds ++ [x]) e (better d x) := by
  obtain ⟨before, after, rfl, covers, earlier, later⟩ := h
  unfold better
  by_cases hr : d.outranks x
  · rw [if_pos hr]
    refine ⟨before, after ++ [x], by simp, covers, earlier, fun other hmem hc => ?_⟩
    rcases List.mem_append.mp hmem with hmem | hmem
    · exact later other hmem hc
    · obtain rfl := List.mem_singleton.mp hmem
      exact hr
  · rw [if_neg hr]
    refine ⟨before ++ d :: after, [], by simp, hx, fun other hmem hc ho => ?_, by simp⟩
    rcases List.mem_append.mp hmem with hmem | hmem
    · exact earlier other hmem hc (Directive.outranks_of_not_outranks ho hr)
    · rcases List.mem_cons.mp hmem with rfl | hmem
      · exact hr ho
      · exact hr (Directive.outranks_trans (later other hmem hc) ho)

theorem decisive?_spec (ds : List Directive) (e : Event) :
    (decisive? ⟨ds⟩ e = none ∧ ∀ d ∈ ds, ¬ d.covers e) ∨
      ∃ d, decisive? ⟨ds⟩ e = some d ∧ Decides ds e d := by
  induction ds using List.reverseRecOn with
  | nil => exact .inl ⟨rfl, by simp⟩
  | append_singleton ds x ih =>
    rw [decisive?_snoc]
    by_cases hx : x.covers e
    · rw [if_pos hx]
      rcases ih with ⟨hn, uncovered⟩ | ⟨d, hd, decides⟩
      · exact .inr ⟨x, by rw [hn]; rfl, ds, [], rfl, hx, fun o hmem hc => absurd hc (uncovered o hmem),
          by simp⟩
      · exact .inr ⟨better d x, by rw [hd]; rfl, decides_snoc hx decides⟩
    · rw [if_neg hx]
      rcases ih with ⟨hn, uncovered⟩ | ⟨d, hd, decides⟩
      · refine .inl ⟨hn, fun o hmem => ?_⟩
        rcases List.mem_append.mp hmem with hmem | hmem
        · exact uncovered o hmem
        · obtain rfl := List.mem_singleton.mp hmem
          exact hx
      · exact .inr ⟨d, hd, decides_snoc_skip hx decides⟩

theorem decisive?_eq_some_iff : f.decisive? e = some d ↔ Decides f.directives e d := by
  rcases decisive?_spec f.directives e with ⟨hn, uncovered⟩ | ⟨d', hd, decides⟩
  · rw [show f.decisive? e = none from hn]
    constructor
    · exact fun h => nomatch h
    · rintro ⟨before, after, hds, covers, -⟩
      exact absurd covers (uncovered d (by simp [hds]))
  · rw [show f.decisive? e = some d' from hd, Option.some.injEq]
    exact ⟨fun h => h ▸ decides, fun h => decides.unique h⟩

theorem decisive?_eq_none_iff : f.decisive? e = none ↔ ∀ d ∈ f.directives, ¬ d.covers e := by
  rcases decisive?_spec f.directives e with ⟨hn, uncovered⟩ | ⟨d, hd, before, after, hds, covers, -⟩
  · exact ⟨fun _ => uncovered, fun _ => hn⟩
  · rw [show f.decisive? e = some d from hd]
    exact ⟨fun h => (nomatch h), fun h => absurd covers (h d (by simp [hds]))⟩

/-- An event is written exactly if the directive that decides about it admits its level. -/
theorem admits_iff :
    f.admits e ↔ ∃ d, Decides f.directives e d ∧ d.verbosity.admits e.level := by
  simp only [← decisive?_eq_some_iff, admits]
  cases f.decisive? e <;> simp

/-- A directive that is not for the event may as well be missing. -/
theorem admits_filter_covers (f : Filter) (e : Event) :
    Filter.admits ⟨f.directives.filter (·.covers e)⟩ e = f.admits e := by
  simp [admits, decisive?]

/-! ## Pieces between commas -/

theorem pieces_ne_nil (s : List Char) : pieces s ≠ [] := by
  cases s with
  | nil => simp [pieces]
  | cons c r =>
    unfold pieces
    split
    · simp
    · split <;> simp

theorem pieces_cons {c : Char} (hc : c ≠ ',') (r : List Char) :
    ∃ piece rest, pieces r = piece :: rest ∧ pieces (c :: r) = (c :: piece) :: rest := by
  obtain ⟨piece, rest, h⟩ := List.exists_cons_of_ne_nil (pieces_ne_nil r)
  refine ⟨piece, rest, h, ?_⟩
  rw [pieces, if_neg hc, h]

theorem pieces_append (a b : List Char) : pieces (a ++ ',' :: b) = pieces a ++ pieces b := by
  induction a with
  | nil => simp [pieces]
  | cons c r ih =>
    by_cases hc : c = ','
    · rw [List.cons_append, pieces, pieces, if_pos hc, if_pos hc, ih]
      rfl
    · obtain ⟨piece, rest, hr, hcr⟩ := pieces_cons hc r
      obtain ⟨piece', rest', hr', hcr'⟩ := pieces_cons hc (r ++ ',' :: b)
      rw [ih, hr] at hr'
      obtain ⟨rfl, rfl⟩ := List.cons.inj hr'
      rw [List.cons_append, hcr', hcr]
      rfl

theorem comma_notMem_pieces {s piece : List Char} (h : piece ∈ pieces s) : ',' ∉ piece := by
  induction s generalizing piece with
  | nil =>
    obtain rfl := List.mem_singleton.mp h
    simp
  | cons c r ih =>
    by_cases hc : c = ','
    · rw [pieces, if_pos hc] at h
      rcases List.mem_cons.mp h with rfl | h
      · simp
      · exact ih h
    · obtain ⟨first, rest, hr, hcr⟩ := pieces_cons hc r
      rw [hcr] at h
      rcases List.mem_cons.mp h with rfl | h
      · rw [List.mem_cons, not_or]
        exact ⟨Ne.symm hc, ih (by simp [hr])⟩
      · exact ih (by simp [hr, h])

theorem intercalate_pieces (s : List Char) : [','].intercalate (pieces s) = s := by
  induction s with
  | nil => rfl
  | cons c r ih =>
    by_cases hc : c = ','
    · rw [pieces, if_pos hc, List.intercalate_cons_of_ne_nil (pieces_ne_nil r), ih, hc]
      rfl
    · obtain ⟨piece, rest, hr, hcr⟩ := pieces_cons hc r
      rw [hcr]
      rw [hr] at ih
      cases rest with
      | nil => simpa using ih
      | cons second rest =>
        rw [List.intercalate_cons_of_ne_nil (by simp)] at ih ⊢
        rw [← ih]
        rfl

/-! ## Reading a filter -/

theorem mapM_eq_none_iff {α β : Type} {g : α → Option β} {xs : List α} :
    xs.mapM g = none ↔ ∃ x ∈ xs, g x = none := by
  induction xs with
  | nil => simp
  | cons x xs ih =>
    rw [List.mapM_cons]
    cases hx : g x with
    | none => simp [hx]
    | some y =>
      cases hxs : xs.mapM g with
      | none => simpa [hx, hxs] using ih.mp hxs
      | some ys => simpa [hx, hxs] using ih

/-- The directives of a text, if every piece but the empty ones is one. -/
def directives? (s : List Char) : Option (List Directive) :=
  ((pieces s).filter (· ≠ [])).mapM Directive.ofText?

theorem ofText?_eq (s : String) :
    ofText? s = (directives? s.toList).map fun ds =>
      if ds = [] then ⟨[.plain none (some .error)]⟩ else ⟨ds⟩ := by
  unfold ofText? directives?
  cases ((pieces s.toList).filter (· ≠ [])).mapM Directive.ofText? with
  | none => rfl
  | some ds =>
    simp only [Option.bind_eq_bind, Option.bind_some, Option.map_some]
    split <;> rfl

theorem directives?_append (a b : List Char) :
    directives? (a ++ ',' :: b) = do return (← directives? a) ++ (← directives? b) := by
  rw [directives?, pieces_append, List.filter_append, List.mapM_append]
  rfl

/-- A text is no filter exactly if a piece of it is neither empty nor a directive. -/
theorem ofText?_eq_none_iff {s : String} :
    ofText? s = none ↔ ∃ piece ∈ pieces s.toList, piece ≠ [] ∧ Directive.ofText? piece = none := by
  rw [ofText?_eq, Option.map_eq_none_iff, directives?, mapM_eq_none_iff]
  simp [and_assoc]

end Filter

end SandboxProbe
