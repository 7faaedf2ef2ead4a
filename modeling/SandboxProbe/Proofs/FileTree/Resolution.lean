import SandboxProbe.FileTree.Resolve

/-!
# Where a path leads

Path resolution as rules, one for each thing that the next name can be. `resolve_eq_ok_iff` says that a
walk ends at a place exactly if the rules lead there, so a path denotes at most one place; what a
call denotes that follows a final link is itself no link.
-/

namespace SandboxProbe

/-- A name that is looked up in its directory. -/
structure Path.Ordinary (name : Bytes) : Prop where
  ne_nil : name ≠ []
  ne_dot : name ≠ dot
  ne_dotDot : name ≠ dotDot
  length_le : name.length ≤ longestName

namespace Tree

/-- From a place the names lead to another, through at most so many links. -/
inductive Leads (t : Tree) (follow : Bool) : Nat → Location → List Bytes → Location → Prop
  | arrived {links p} : Leads t follow links p [] p
  | stay {links p name rest q} : t.isDirectory p → name = [] ∨ name = Path.dot →
      Leads t follow links p rest q → Leads t follow links p (name :: rest) q
  | up {links p rest q} : t.isDirectory p →
      Leads t follow links p.parent rest q → Leads t follow links p (Path.dotDot :: rest) q
  | enter {links p name rest child q} : t.isDirectory p → Path.Ordinary name →
      t.child? p name = some child → (∀ target, t.content? child ≠ some (.link target)) →
      Leads t follow links child rest q → Leads t follow links p (name :: rest) q
  | link {links p name child target} : t.isDirectory p → Path.Ordinary name →
      t.child? p name = some child → t.content? child = some (.link target) → follow = false →
      Leads t follow links p [name] child
  | through {links p name rest child target q} : t.isDirectory p → Path.Ordinary name →
      t.child? p name = some child → t.content? child = some (.link target) →
      rest ≠ [] ∨ follow = true →
      Leads t follow links (start p target) (Path.names target ++ rest) q →
      Leads t follow (links + 1) p (name :: rest) q

/-- A path that a call can use denotes the place that its names lead to. -/
structure Denotes (t : Tree) (follow : Bool) (path : Bytes) (place : Location) : Prop where
  ne_nil : path ≠ []
  length_le : path.length ≤ Path.longestPath
  leads : t.Leads follow Path.mostLinks (start t.workingDirectory path) (Path.names path) place

variable {t : Tree} {follow : Bool} {links : Nat} {p q child : Location} {name target path : Bytes}
  {rest names : List Bytes}

/-! ## Steps of a walk -/

/-- What a walk goes on with behind a link. -/
def jump (t : Tree) (follow : Bool) : Nat → Location → List Bytes → Except Errno Location
  | 0 => fun _ _ => .error .linkLoop
  | links + 1 => t.walk follow links

theorem walk_eq_walkWith : t.walk follow links = t.walkWith follow (t.jump follow links) := by
  cases links <;> rfl

theorem walk_nil : t.walk follow links p [] = .ok p := by
  rw [walk_eq_walkWith]; rfl

theorem walk_not_directory (h : ¬ t.isDirectory p) :
    t.walk follow links p (name :: rest) = .error .notDirectory := by
  rw [walk_eq_walkWith, walkWith, if_neg h]

theorem walk_stay (h : t.isDirectory p) (hn : name = [] ∨ name = Path.dot) :
    t.walk follow links p (name :: rest) = t.walk follow links p rest := by
  rw [walk_eq_walkWith, walkWith, if_pos h, if_pos hn]

theorem walk_up (h : t.isDirectory p) :
    t.walk follow links p (Path.dotDot :: rest) = t.walk follow links p.parent rest := by
  have hn : ¬ (Path.dotDot = [] ∨ Path.dotDot = Path.dot) := by decide
  rw [walk_eq_walkWith, walkWith, if_pos h, if_neg hn, if_pos rfl]

theorem walk_long (h : t.isDirectory p) (hn : ¬ (name = [] ∨ name = Path.dot))
    (hu : name ≠ Path.dotDot) (hl : Path.longestName < name.length) :
    t.walk follow links p (name :: rest) = .error .nameTooLong := by
  rw [walk_eq_walkWith, walkWith, if_pos h, if_neg hn, if_neg hu, if_pos hl]

/-- The look-up of an ordinary name in a directory. -/
theorem walk_ordinary (h : t.isDirectory p) (hn : Path.Ordinary name) :
    t.walk follow links p (name :: rest) =
      match t.child? p name with
      | none => .error .noEntry
      | some child =>
        match t.content? child with
        | some (.link target) =>
          if rest = [] ∧ follow = false then .ok child
          else t.jump follow links (start p target) (Path.names target ++ rest)
        | _ => t.walk follow links child rest := by
  have hs : ¬ (name = [] ∨ name = Path.dot) := fun hs => hs.elim hn.ne_nil hn.ne_dot
  rw [walk_eq_walkWith, walkWith, if_pos h, if_neg hs, if_neg hn.ne_dotDot]
  exact if_neg (Nat.not_lt.mpr hn.length_le)

theorem walk_missing (h : t.isDirectory p) (hn : Path.Ordinary name) (hc : t.child? p name = none) :
    t.walk follow links p (name :: rest) = .error .noEntry := by
  simp only [walk_ordinary h hn, hc]

theorem walk_enter (h : t.isDirectory p) (hn : Path.Ordinary name)
    (hc : t.child? p name = some child) (ht : ∀ target, t.content? child ≠ some (.link target)) :
    t.walk follow links p (name :: rest) = t.walk follow links child rest := by
  -- `ht` rules the link alternative of the inner match out
  simp only [walk_ordinary h hn, hc]

theorem walk_link (h : t.isDirectory p) (hn : Path.Ordinary name)
    (hc : t.child? p name = some child) (ht : t.content? child = some (.link target)) :
    t.walk follow links p (name :: rest) =
      if rest = [] ∧ follow = false then .ok child
      else t.jump follow links (start p target) (Path.names target ++ rest) := by
  simp only [walk_ordinary h hn, hc, ht]

/-! ## Walking is being led -/

theorem walk_of_leads (h : t.Leads follow links p names q) :
    t.walk follow links p names = .ok q := by
  induction h with
  | arrived => exact walk_nil
  | stay hd hn _ ih => rw [walk_stay hd hn, ih]
  | up hd _ ih => rw [walk_up hd, ih]
  | enter hd hn hc ht _ ih => rw [walk_enter hd hn hc ht, ih]
  | link hd hn hc ht hf => rw [walk_link hd hn hc ht, if_pos ⟨rfl, hf⟩]
  | through hd hn hc ht hf _ ih =>
    rw [walk_link hd hn hc ht, if_neg]
    · exact ih
    · rintro ⟨hr, hf'⟩
      rcases hf with hf | hf
      · exact hf hr
      · rw [hf'] at hf
        cases hf

/-- One round of names, given that what a link leads to is known. -/
theorem leads_of_walk_of_jump
    (hj : ∀ p names, t.jump follow links p names = .ok q →
      ∃ left, links = left + 1 ∧ t.Leads follow left p names q)
    (h : t.walk follow links p names = .ok q) : t.Leads follow links p names q := by
  induction names generalizing p with
  | nil =>
    rw [walk_nil] at h
    cases h
    exact .arrived
  | cons name rest ih =>
    by_cases hd : t.isDirectory p
    case neg =>
      rw [walk_not_directory hd] at h
      cases h
    by_cases hs : name = [] ∨ name = Path.dot
    · rw [walk_stay hd hs] at h
      exact .stay hd hs (ih h)
    by_cases hu : name = Path.dotDot
    · subst hu
      rw [walk_up hd] at h
      exact .up hd (ih h)
    by_cases hl : Path.longestName < name.length
    · rw [walk_long hd hs hu hl] at h
      cases h
    have hn : Path.Ordinary name :=
      ⟨fun h => hs (.inl h), fun h => hs (.inr h), hu, Nat.not_lt.mp hl⟩
    cases hc : t.child? p name with
    | none =>
      rw [walk_missing hd hn hc] at h
      cases h
    | some child =>
      by_cases ht : ∃ target, t.content? child = some (.link target)
      case neg =>
        have ht' : ∀ target, t.content? child ≠ some (.link target) := not_exists.mp ht
        rw [walk_enter hd hn hc ht'] at h
        exact .enter hd hn hc ht' (ih h)
      obtain ⟨target, ht⟩ := ht
      rw [walk_link hd hn hc ht] at h
      by_cases hf : rest = [] ∧ follow = false
      · rw [if_pos hf] at h
        obtain ⟨rfl, hf⟩ := hf
        cases h
        exact .link hd hn hc ht hf
      · rw [if_neg hf] at h
        obtain ⟨left, rfl, hq⟩ := hj _ _ h
        refine .through hd hn hc ht ?_ hq
        by_cases hr : rest = []
        · exact .inr (by simpa [hr] using hf)
        · exact .inl hr

theorem leads_of_walk (h : t.walk follow links p names = .ok q) :
    t.Leads follow links p names q := by
  induction links generalizing p names with
  | zero =>
    refine leads_of_walk_of_jump ?_ h
    intro p names hj
    cases hj
  | succ links ih => exact leads_of_walk_of_jump (fun _ _ hj => ⟨links, rfl, ih hj⟩) h

theorem resolve_eq_ok_iff : t.resolve follow path = .ok q ↔ t.Denotes follow path q := by
  unfold resolve
  constructor
  · intro h
    by_cases hl : Path.longestPath < path.length
    · simp [hl] at h
    by_cases hn : path = []
    · simp [hn] at h
    rw [if_neg hl, if_neg hn] at h
    exact ⟨hn, Nat.not_lt.mp hl, leads_of_walk h⟩
  · intro h
    rw [if_neg (Nat.not_lt.mpr h.length_le), if_neg h.ne_nil]
    exact walk_of_leads h.leads

theorem Denotes.unique (h : t.Denotes follow path p) (h' : t.Denotes follow path q) : p = q := by
  rw [← resolve_eq_ok_iff] at h h'
  rw [h] at h'
  exact Except.ok.inj h'

/-! ## What lies above a node -/

theorem isDirectory_above {above : Location} (h : (t.node? (name :: above)).isSome) :
    t.isDirectory above := by
  rw [node?] at h
  by_cases hd : (t.node? above).map Node.content = some .directory
  · simpa [isDirectory, content?] using hd
  · simp [hd] at h

theorem there_of_isDirectory (h : t.isDirectory p) : (t.node? p).isSome := by
  have hc : t.content? p = some .directory := by simpa [isDirectory] using h
  rw [content?] at hc
  cases hn : t.node? p with
  | none => simp [hn] at hc
  | some n => rfl

theorem isDirectory_parent (h : t.isDirectory p) : t.isDirectory p.parent := by
  cases p with
  | nil => exact h
  | cons name above => exact isDirectory_above (there_of_isDirectory h)

theorem isDirectory_root (h : t.isDirectory p) : t.isDirectory root := by
  induction p with
  | nil => exact h
  | cons name above ih => exact ih (isDirectory_above (there_of_isDirectory h))

theorem isDirectory_start (h : t.isDirectory p) (path : Bytes) : t.isDirectory (start p path) := by
  unfold start
  split
  · exact isDirectory_root h
  · exact h

theorem there_of_child? (h : t.child? p name = some child) : (t.node? child).isSome := by
  rw [child?] at h
  split at h
  · rename_i hs
    cases h
    exact hs
  · cases h

/-! ## Where the rules end -/

theorem not_link_of_isDirectory (h : t.isDirectory p) : t.content? p ≠ some (.link target) := by
  intro hl
  simp [isDirectory, hl] at h

theorem not_link_of_leads (h : t.Leads true links p names q)
    (hp : ∀ target, t.content? p ≠ some (.link target)) :
    ∀ target, t.content? q ≠ some (.link target) := by
  generalize hfollow : true = follow at h
  induction h with
  | arrived => exact hp
  | stay _ _ _ ih => exact ih hp
  | up hd _ ih => exact ih fun _ => not_link_of_isDirectory (isDirectory_parent hd)
  | enter _ _ _ ht _ ih => exact ih ht
  | link _ _ _ _ hf =>
    rw [← hfollow] at hf
    cases hf
  | through hd _ _ _ _ _ ih => exact ih fun _ => not_link_of_isDirectory (isDirectory_start hd _)

theorem there_of_leads (h : t.Leads follow links p names q) (hp : (t.node? p).isSome) :
    (t.node? q).isSome := by
  induction h with
  | arrived => exact hp
  | stay _ _ _ ih => exact ih hp
  | up hd _ ih => exact ih (there_of_isDirectory (isDirectory_parent hd))
  | enter _ _ hc _ _ ih => exact ih (there_of_child? hc)
  | link _ _ hc _ _ => exact there_of_child? hc
  | through hd _ _ _ _ _ ih => exact ih (there_of_isDirectory (isDirectory_start hd _))

/-! ## Whole paths -/

theorem names_ne_nil (path : Bytes) : Path.names path ≠ [] := by
  cases path with
  | nil => simp [Path.names]
  | cons b r =>
    rw [Path.names]
    split
    · simp
    · split <;> simp

theorem isDirectory_of_leads (h : t.Leads follow links p names q) (hn : names ≠ []) :
    t.isDirectory p := by
  cases h with
  | arrived => exact absurd rfl hn
  | stay hd | up hd | enter hd | link hd | through hd => exact hd

theorem Denotes.isDirectory_start (h : t.Denotes follow path q) :
    t.isDirectory (start t.workingDirectory path) :=
  isDirectory_of_leads h.leads (names_ne_nil path)

theorem Denotes.not_link (h : t.Denotes true path q) :
    ∀ target, t.content? q ≠ some (.link target) :=
  not_link_of_leads h.leads fun _ => not_link_of_isDirectory h.isDirectory_start

theorem Denotes.node (h : t.Denotes follow path q) : ∃ n, t.node? q = some n :=
  Option.isSome_iff_exists.mp (there_of_leads h.leads (there_of_isDirectory h.isDirectory_start))

end Tree

end SandboxProbe
