import SandboxProbe.Extraction
import SandboxProbe.Library
import SandboxProbe.Proofs.FileTree.Resolution

/-!
# The stages of an extraction

Arguments, bundle, loading, work: each stage that fails is the end, and what it says is all that is said.
`carryOut_staged` gives the exit code, the text on standard error and all that was asked of the loader and
of the extractor, for every stage that an extraction can end in.
-/

namespace SandboxProbe

/-! ## The bundle that counts -/

/-- The path leads to something, through all its links. -/
def Tree.Reaches (t : Tree) (path : Bytes) : Prop :=
  Library.holdsNul path = false ∧ ∃ place, t.Denotes true path place

theorem Tree.pathExists_iff {t : Tree} {path : Bytes} : t.pathExists path ↔ t.Reaches path := by
  rw [pathExists, Reaches, Library.holdsNul, Bool.and_eq_true, Bool.not_eq_true']
  apply and_congr_right'
  simp only [← resolve_eq_ok_iff]
  cases t.resolve true path <;> simp [Except.isOk, Except.toBool]

instance (t : Tree) (path : Bytes) : Decidable (t.Reaches path) :=
  decidable_of_iff _ Tree.pathExists_iff

namespace Bundle

/-- The earliest candidate that is there. -/
def Chosen (there : Bytes → Prop) (candidates : List Bytes) (bundle : Bytes) : Prop :=
  ∃ before after, candidates = before ++ bundle :: after ∧ there bundle ∧
    ∀ earlier ∈ before, ¬ there earlier

section
variable {isThere : Bytes → Bool} {there : Bytes → Prop} {candidates : List Bytes} {bundle : Bytes}
  (same : ∀ path, isThere path = true ↔ there path)

include same in
theorem find?_eq_some_iff : find? isThere candidates = some bundle ↔ Chosen there candidates bundle := by
  rw [find?, List.find?_eq_some_iff_append, same]
  constructor
  · rintro ⟨found, before, after, rfl, absent⟩
    refine ⟨before, after, rfl, found, fun earlier h => ?_⟩
    rw [← same]
    simpa using absent earlier h
  · rintro ⟨before, after, rfl, found, absent⟩
    refine ⟨found, before, after, rfl, fun earlier h => ?_⟩
    have habsent := absent earlier h
    rw [← same] at habsent
    simpa using habsent

include same in
theorem find?_eq_none_iff : find? isThere candidates = none ↔ ∀ c ∈ candidates, ¬ there c := by
  simp only [find?, List.find?_eq_none, same]

end

theorem Chosen.unique {there : Bytes → Prop} {candidates : List Bytes} {bundle other : Bytes}
    (h : Chosen there candidates bundle) (h' : Chosen there candidates other) : bundle = other := by
  classical
  rw [← find?_eq_some_iff fun path => decide_eq_true_iff (p := there path)] at h h'
  exact Option.some.inj (h.symm.trans h')

end Bundle

/-! ## What is written -/

section
variable (admits : Event → Bool)

theorem Output.written_nil : written admits [] = "" := rfl

theorem Output.written_cons (o : Output) (outputs : List Output) :
    written admits (o :: outputs) = o.shown admits ++ written admits outputs :=
  String.join_cons

theorem Output.written_append (a b : List Output) :
    written admits (a ++ b) = written admits a ++ written admits b := by
  rw [written, List.map_append, String.join_append]
  rfl

/-- A piece for each report that has a total, in order. -/
def Progress.shown (reports : List Progress) : String :=
  String.join ((reports.filter (0 < ·.total)).map fun p =>
    "\rExtracting " ++ toString p.current.toNat ++ "/" ++ toString p.total.toNat)

theorem written_progress (reports : List Progress) :
    Output.written admits (reports.map fun p => .text p.text) = Progress.shown reports := by
  induction reports with
  | nil => rfl
  | cons p reports ih =>
    rw [List.map_cons, Output.written_cons, ih, Progress.shown, Progress.shown, Output.shown,
      Progress.text]
    by_cases h : p.total = 0
    · simp [h]
    · have hp : 0 < p.total := UInt32.pos_iff_ne_zero.mpr h
      simp [h, hp, String.append_assoc]

end

namespace Extraction

/-! ## Steps -/

section
variable {α β : Type} (t : Transcript)

theorem run_bind (x : Extraction α) (f : α → Extraction β) :
    (x >>= f).run t = (f (x.run t).1).run (x.run t).2 := rfl

theorem run_put (o : Output) : (put o).run t = ((), { t with stderr := t.stderr ++ [o] }) := rfl

theorem run_load (loader : Loader) (bundle : Bytes) :
    (load loader bundle).run t = (loader bundle, { t with loaded := t.loaded ++ [bundle] }) := rfl

theorem run_work (extractor : Extractor) (cache directory : Bytes) :
    (work extractor cache directory).run t =
      ((extractor cache directory).ending,
        { t with
          stderr := t.stderr ++ (extractor cache directory).progress.map fun p => .text p.text
          extracted := t.extracted ++ [(cache, directory)] }) := rfl

end

/-! ## The ways that an extraction can go -/

variable {isThere : Bytes → Bool} {candidates : List Bytes} {loader : Loader} {args : List Bytes}
  {cache directory bundle : Bytes} {extractor : Extractor} {e : ExtractionError} {rc : Int32}

theorem run_wrongArguments (h : args.length ≠ 2) :
    (carryOut isThere candidates loader args).run start =
      (wrongArguments, ⟨[.line usage], [], []⟩) := by
  rcases args with _ | ⟨a, _ | ⟨b, _ | ⟨c, rest⟩⟩⟩
  · rfl
  · rfl
  · exact absurd rfl h
  · rfl

theorem run_noBundle (h : Bundle.find? isThere candidates = none) :
    (carryOut isThere candidates loader [cache, directory]).run start =
      (unavailable, ⟨[.line ExtractionError.noBundle.message], [], []⟩) := by
  simp only [carryOut, h]
  rfl

theorem run_cannotLoad (h : Bundle.find? isThere candidates = some bundle)
    (hl : loader bundle = .error e) :
    (carryOut isThere candidates loader [cache, directory]).run start =
      (unavailable, ⟨[.event (.usingBundle bundle), .line e.message], [bundle], []⟩) := by
  simp only [carryOut, h, run_bind, run_put, run_load, hl]
  rfl

theorem run_brokenOff (h : Bundle.find? isThere candidates = some bundle)
    (hl : loader bundle = .ok extractor) (hw : (extractor cache directory).ending = .error e) :
    (carryOut isThere candidates loader [cache, directory]).run start =
      (unavailable,
        ⟨.event (.usingBundle bundle) ::
            (extractor cache directory).progress.map (fun p => .text p.text) ++ [.line e.message],
          [bundle], [(cache, directory)]⟩) := by
  simp only [carryOut, h, run_bind, run_put, run_load, hl, run_work, hw]
  rfl

theorem run_finished (h : Bundle.find? isThere candidates = some bundle)
    (hl : loader bundle = .ok extractor) (hw : (extractor cache directory).ending = .ok rc) :
    (carryOut isThere candidates loader [cache, directory]).run start =
      (rc,
        ⟨.event (.usingBundle bundle) ::
            (extractor cache directory).progress.map (fun p => .text p.text) ++ [.text "\n"] ++
              if rc = 0 then [] else [.line ("extraction failed rc=" ++ Errno.decimal rc)],
          [bundle], [(cache, directory)]⟩) := by
  simp only [carryOut, h, run_bind, run_put, run_load, hl, run_work, hw]
  by_cases h0 : rc = 0
  · simp only [h0, ne_eq, not_true_eq_false, ite_false, ite_true, List.append_nil]
    rfl
  · simp only [h0, ne_eq, not_false_eq_true, ite_false, ite_true, run_bind, run_put]
    rfl

/-! ## Stage by stage -/

/-- What an extraction comes to, stage by stage, where `there` holds of the paths that lead to something.
`text` is all that is on standard error where `admits` says which events are written: behind the choice
of a bundle there is one. -/
structure Staged (there : Bytes → Prop) (candidates : List Bytes) (loader : Loader) (args : List Bytes)
    (admits : Event → Bool) (code : Int32) (text : String) (loaded : List Bytes)
    (extracted : List (Bytes × Bytes)) : Prop where
  wrongArguments : args.length ≠ 2 →
    code = 2 ∧ text = "usage: dsc-extract <path-to-dyld_shared_cache> <output-dir>\n" ∧
      loaded = [] ∧ extracted = []
  noBundle : args.length = 2 → (∀ c ∈ candidates, ¬ there c) →
    code = 1 ∧ text = "dsc_extractor.bundle not found. Install Xcode if needed.\n" ∧
      loaded = [] ∧ extracted = []
  bundle : args.length = 2 → (∃ c ∈ candidates, there c) →
    ∃ bundle, Bundle.Chosen there candidates bundle ∧ loaded = [bundle]
  cannotLoad : ∀ bundle e, args.length = 2 → Bundle.Chosen there candidates bundle →
    loader bundle = .error e →
    code = 1 ∧ text = Output.shown admits (.event (.usingBundle bundle)) ++ e.message ++ "\n" ∧
      extracted = []
  extracts : ∀ bundle extractor cache directory, args = [cache, directory] →
    Bundle.Chosen there candidates bundle → loader bundle = .ok extractor →
    extracted = [(cache, directory)]
  brokenOff : ∀ bundle extractor cache directory e, args = [cache, directory] →
    Bundle.Chosen there candidates bundle → loader bundle = .ok extractor →
    (extractor cache directory).ending = .error e → code = 1
  finished : ∀ bundle extractor cache directory rc, args = [cache, directory] →
    Bundle.Chosen there candidates bundle → loader bundle = .ok extractor →
    (extractor cache directory).ending = .ok rc →
    code = rc ∧
      text = Output.shown admits (.event (.usingBundle bundle)) ++
        Progress.shown (extractor cache directory).progress ++ "\n" ++
          if rc = 0 then "" else "extraction failed rc=" ++ toString rc.toInt ++ "\n"

theorem length_eq_two {args : List Bytes} (h : args.length = 2) :
    ∃ cache directory, args = [cache, directory] := by
  rcases args with _ | ⟨a, _ | ⟨b, _ | ⟨c, rest⟩⟩⟩
  · cases h
  · cases h
  · exact ⟨a, b, rfl⟩
  · simp at h

/-- The loader is asked for the bundle that counts, however it and the extractor answer. -/
theorem loaded_of_find (h : Bundle.find? isThere candidates = some bundle) :
    ((carryOut isThere candidates loader [cache, directory]).run start).2.loaded = [bundle] := by
  cases hl : loader bundle with
  | error e => rw [run_cannotLoad h hl]
  | ok extractor =>
    cases hw : (extractor cache directory).ending with
    | error e => rw [run_brokenOff h hl hw]
    | ok rc => rw [run_finished h hl hw]

theorem extracted_of_loaded (h : Bundle.find? isThere candidates = some bundle)
    (hl : loader bundle = .ok extractor) :
    ((carryOut isThere candidates loader [cache, directory]).run start).2.extracted =
      [(cache, directory)] := by
  cases hw : (extractor cache directory).ending with
  | error e => rw [run_brokenOff h hl hw]
  | ok rc => rw [run_finished h hl hw]

/-- What is on standard error behind an extraction that was not broken off. -/
theorem written_finished (admits : Event → Bool) (bundle : Bytes) (reports : List Progress)
    (rc : Int32) :
    Output.written admits
        (.event (.usingBundle bundle) :: reports.map (fun p => .text p.text) ++ [.text "\n"] ++
          if rc = 0 then [] else [.line ("extraction failed rc=" ++ Errno.decimal rc)]) =
      Output.shown admits (.event (.usingBundle bundle)) ++ Progress.shown reports ++ "\n" ++
        if rc = 0 then "" else "extraction failed rc=" ++ toString rc.toInt ++ "\n" := by
  rw [List.cons_append, List.cons_append, Output.written_cons, Output.written_append,
    Output.written_append, written_progress, Output.written_cons, Output.written_nil,
    String.append_empty]
  by_cases h : rc = 0
  · simp only [if_pos h, Output.written_nil, String.append_assoc]
    rfl
  · simp only [if_neg h, Output.written_cons, Output.written_nil, String.append_empty,
      String.append_assoc]
    rfl

theorem staged_run {there : Bytes → Prop} (same : ∀ path, isThere path = true ↔ there path)
    (candidates : List Bytes) (loader : Loader) (args : List Bytes) (admits : Event → Bool) :
    let done := (carryOut isThere candidates loader args).run start
    Staged there candidates loader args admits done.1 (Output.written admits done.2.stderr)
      done.2.loaded done.2.extracted := by
  intro done
  refine ⟨fun h => ?wrongArguments, fun h hc => ?noBundle, fun h hc => ?bundle,
    fun bundle e h hc hl => ?cannotLoad,
    fun bundle extractor cache directory h hc hl => ?extracts,
    fun bundle extractor cache directory e h hc hl hw => ?brokenOff,
    fun bundle extractor cache directory rc h hc hl hw => ?finished⟩
  case wrongArguments =>
    have hrun : done = _ := run_wrongArguments h
    rw [hrun]
    exact ⟨rfl, rfl, rfl, rfl⟩
  case noBundle =>
    obtain ⟨cache, directory, rfl⟩ := length_eq_two h
    have hrun : done = _ := run_noBundle ((Bundle.find?_eq_none_iff same).mpr hc)
    rw [hrun]
    exact ⟨rfl, rfl, rfl, rfl⟩
  case bundle =>
    obtain ⟨cache, directory, rfl⟩ := length_eq_two h
    cases hfind : Bundle.find? isThere candidates with
    | none =>
      obtain ⟨c, hmem, hthere⟩ := hc
      exact absurd hthere ((Bundle.find?_eq_none_iff same).mp hfind c hmem)
    | some bundle =>
      exact ⟨bundle, (Bundle.find?_eq_some_iff same).mp hfind, loaded_of_find hfind⟩
  case cannotLoad =>
    obtain ⟨cache, directory, rfl⟩ := length_eq_two h
    have hrun : done = _ := run_cannotLoad ((Bundle.find?_eq_some_iff same).mpr hc) hl
    rw [hrun]
    refine ⟨rfl, ?_, rfl⟩
    rw [Output.written_cons, Output.written_cons, Output.written_nil, String.append_empty,
      String.append_assoc]
    rfl
  case extracts =>
    subst h
    exact extracted_of_loaded ((Bundle.find?_eq_some_iff same).mpr hc) hl
  case brokenOff =>
    subst h
    have hrun : done = _ := run_brokenOff ((Bundle.find?_eq_some_iff same).mpr hc) hl hw
    rw [hrun]
    rfl
  case finished =>
    subst h
    have hrun : done = _ := run_finished ((Bundle.find?_eq_some_iff same).mpr hc) hl hw
    rw [hrun]
    exact ⟨rfl, written_finished admits bundle _ rc⟩

/-- An extraction goes through its stages and stops at the first that fails; the loader is asked once,
for the earliest candidate that leads to something, and its extractor works once, on the arguments as they
are. In a file tree a path leads to what it denotes, all links followed. The candidates are the usual ones
unless the variable holds a path, which then stands alone. -/
theorem carryOut_staged (loader : Loader) (args : List Bytes) (admits : Event → Bool) :
    (∀ (isThere : Bytes → Bool) (candidates : List Bytes),
      let done := (carryOut isThere candidates loader args).run start
      Staged (fun path => isThere path = true) candidates loader args admits done.1
        (Output.written admits done.2.stderr) done.2.loaded done.2.extracted) ∧
    (∀ (t : Tree) (candidates : List Bytes),
      let done := (carryOut t.pathExists candidates loader args).run start
      Staged t.Reaches candidates loader args admits done.1 (Output.written admits done.2.stderr)
        done.2.loaded done.2.extracted) ∧
    (∀ path, path ≠ [] → Bundle.candidates (some path) = [path]) ∧
    ∀ value, value = none ∨ value = some [] → Bundle.candidates value =
      [Text.Utf8.encode "/usr/lib/dsc_extractor.bundle",
        Text.Utf8.encode ("/Applications/Xcode.app/Contents/Developer/Platforms/" ++
          "MacOSX.platform/usr/lib/dsc_extractor.bundle")] := by
  refine ⟨fun isThere candidates => staged_run (fun _ => Iff.rfl) candidates loader args admits,
    fun t candidates => staged_run (fun _ => Tree.pathExists_iff) candidates loader args admits,
    fun path h => ?_, ?_⟩
  · cases path with
    | nil => exact absurd rfl h
    | cons b path => rfl
  · rintro value (rfl | rfl)
    · rfl
    · rfl

section
open Text.Utf8 (encode)

/-- A file tree in which the first of the usual bundles is a link. -/
def linkedBundle : Tree :=
  let directory : Node := ⟨.directory, 0o755, 0, 0⟩
  let usr : Location := [encode "usr"]
  let lib : Location := encode "lib" :: usr
  ⟨usr, [([], directory), (usr, directory), (lib, directory),
    (encode "dsc_extractor.bundle" :: lib, ⟨.link (encode "/usr/b"), 0o777, 0, 0⟩),
    (encode "b" :: usr, ⟨.file [], 0o644, 0, 0⟩)]⟩

/-- The bundle is loaded through the link, its extractor is given the two arguments, and its code is
handed on. -/
theorem carryOut_staged_usual :
    let done := (carryOut linkedBundle.pathExists (Bundle.candidates none)
      (fun _ => .ok fun _ _ => ⟨[⟨1, 2⟩], .ok 3⟩) [encode "cache", encode "out"]).run start
    done.1 = 3 ∧ done.2.loaded = [encode "/usr/lib/dsc_extractor.bundle"] ∧
      done.2.extracted = [(encode "cache", encode "out")] ∧
      Output.written (fun _ => false) done.2.stderr =
        "\rExtracting 1/2\nextraction failed rc=3\n" := by
  obtain ⟨-, inTree, -, usual⟩ := carryOut_staged (fun _ => .ok fun _ _ => ⟨[⟨1, 2⟩], .ok 3⟩)
    [encode "cache", encode "out"] fun _ => false
  have there : linkedBundle.Reaches (encode "/usr/lib/dsc_extractor.bundle") := by decide +kernel
  have candidates := usual none (.inl rfl)
  have chosen : Bundle.Chosen linkedBundle.Reaches (Bundle.candidates none) _ :=
    ⟨[], _, candidates, there, by simp⟩
  have staged := inTree linkedBundle (Bundle.candidates none)
  obtain ⟨code, text⟩ := staged.finished _ _ _ _ 3 rfl chosen rfl rfl
  obtain ⟨other, chosen', loaded⟩ :=
    staged.bundle rfl ⟨_, candidates ▸ List.mem_cons_self, there⟩
  obtain rfl := chosen'.unique chosen
  exact ⟨code, loaded, staged.extracts _ _ _ _ rfl chosen rfl, text.trans (by decide +kernel)⟩

end

end Extraction

end SandboxProbe
