import SandboxProbe.Process
import SandboxProbe.Proofs.Extraction
import SandboxProbe.Proofs.Log.Lines

/-!
# How an extraction ends

What is seen of the end from outside: the line that tells of a failure, and the exit status.
`carryOut_freshLine_iff`: the line begins a new one unless the extractor broke off behind a progress
indicator. `exitStatus_carryOut`: the status is 0 exactly where the extractor came back with a multiple of
256.
-/

namespace SandboxProbe

/-! ## Where a line begins -/

/-- What is written next begins a line. -/
def FreshLine (text : String) : Prop :=
  ∀ c, text.toList.getLast? = some c → c = '\n'

theorem freshLine_empty : FreshLine "" := by
  intro c last
  simp at last

theorem freshLine_lineFeed (text : String) : FreshLine (text ++ "\n") := by
  intro c last
  simpa [eq_comm] using last

theorem freshLine_append_iff {a b : String} (h : '\n' ∉ b.toList) :
    FreshLine (a ++ b) ↔ b = "" ∧ FreshLine a := by
  by_cases hb : b = ""
  · simp [hb]
  · simp only [hb, false_and, iff_false]
    intro fresh
    have hne : b.toList ≠ [] := by simpa using hb
    have last : (a ++ b).toList.getLast? = some (b.toList.getLast hne) := by
      rw [String.toList_append, List.getLast?_append, List.getLast?_eq_some_getLast hne]
      rfl
    have feed := fresh _ last
    have member := List.getLast_mem hne
    rw [feed] at member
    exact h member

theorem freshLine_event (admits : Event → Bool) (e : Event) :
    FreshLine (Output.shown admits (.event e)) := by
  change FreshLine (if admits e then e.line else "")
  split
  · exact freshLine_lineFeed _
  · exact freshLine_empty

namespace Progress

theorem toList_shown (reports : List Progress) :
    (shown reports).toList = (reports.filter (0 < ·.total)).flatMap fun p =>
      '\r' :: "Extracting ".toList ++ (Nat.repr p.current.toNat).toList ++
        '/' :: (Nat.repr p.total.toNat).toList := by
  rw [shown, String.toList_join, List.flatMap_map]
  congr 1
  funext p
  change ("\rExtracting " ++ Nat.repr p.current.toNat ++ "/" ++ Nat.repr p.total.toNat).toList = _
  simp

theorem lineFeed_notMem_shown (reports : List Progress) : '\n' ∉ (shown reports).toList := by
  rw [toList_shown, List.mem_flatMap]
  rintro ⟨p, -, member⟩
  have current := (Event.unbroken_repr p.current.toNat).2
  have total := (Event.unbroken_repr p.total.toNat).2
  simp only [List.mem_append, List.mem_cons, current, total, or_false] at member
  revert member
  decide

theorem shown_eq_empty_iff (reports : List Progress) :
    shown reports = "" ↔ ¬∃ p ∈ reports, 0 < p.total := by
  rw [← String.toList_inj, toList_shown]
  simp

end Progress

namespace Extraction

/-- On these arguments the extractor of the bundle that counts is put to work, and does `w`. -/
def Works (isThere : Bytes → Bool) (candidates : List Bytes) (loader : Loader) (args : List Bytes)
    (bundle : Bytes) (w : Work) : Prop :=
  ∃ extractor cache directory, args = [cache, directory] ∧
    Bundle.find? isThere candidates = some bundle ∧ loader bundle = .ok extractor ∧
    extractor cache directory = w

def diagnostic? (w : Work) : Option String :=
  match w.ending with
  | .error e => some e.message
  | .ok rc => if rc = 0 then none else some ("extraction failed rc=" ++ toString rc.toInt)

/-- What the indicator is ended with. -/
def closing (w : Work) : String :=
  match w.ending with
  | .error _ => ""
  | .ok _ => "\n"

def BrokeOffShowing (w : Work) : Prop :=
  (∃ e, w.ending = .error e) ∧ ∃ p ∈ w.progress, 0 < p.total

variable {isThere : Bytes → Bool} {candidates : List Bytes} {loader : Loader} {args : List Bytes}
  {bundle : Bytes} {w : Work}

/-- Where everything exists and every bundle does the same, the first bundle does it. -/
theorem works_same (w : Work) (bundle cache directory : Bytes) (others : List Bytes) :
    Works (fun _ => true) (bundle :: others) (fun _ => .ok fun _ _ => w) [cache, directory] bundle w :=
  ⟨fun _ _ => w, cache, directory, rfl, rfl, rfl, rfl⟩

theorem written_brokenOff (admits : Event → Bool) (bundle : Bytes) (reports : List Progress)
    (message : String) :
    Output.written admits
        (.event (.usingBundle bundle) :: reports.map (fun p => .text p.text) ++ [.line message]) =
      Output.shown admits (.event (.usingBundle bundle)) ++ Progress.shown reports ++
        (message ++ "\n") := by
  rw [List.cons_append, Output.written_cons, Output.written_append, written_progress,
    Output.written_cons, Output.written_nil, String.append_empty, String.append_assoc]
  rfl

/-- Standard error behind an extractor's work: the event, the indicator and its end, the diagnostic. -/
theorem written_works (works : Works isThere candidates loader args bundle w)
    (admits : Event → Bool) :
    Output.written admits ((carryOut isThere candidates loader args).run start).2.stderr =
      Output.shown admits (.event (.usingBundle bundle)) ++ Progress.shown w.progress ++ closing w ++
        (diagnostic? w).elim "" (· ++ "\n") := by
  obtain ⟨extractor, cache, directory, rfl, found, loaded, rfl⟩ := works
  unfold closing diagnostic?
  cases ending : (extractor cache directory).ending with
  | error e =>
    rw [run_brokenOff found loaded ending, written_brokenOff, String.append_empty]
    rfl
  | ok rc =>
    rw [run_finished found loaded ending, written_finished]
    by_cases hrc : rc = 0
    · simp [hrc]
    · simp [hrc]

theorem freshLine_closing_iff (admits : Event → Bool) (bundle : Bytes) (w : Work) :
    FreshLine (Output.shown admits (.event (.usingBundle bundle)) ++ Progress.shown w.progress ++
        closing w) ↔ ¬BrokeOffShowing w := by
  unfold closing BrokeOffShowing
  cases ending : w.ending with
  | error e =>
    have event := freshLine_event admits (.usingBundle bundle)
    rw [String.append_empty, freshLine_append_iff (Progress.lineFeed_notMem_shown _),
      and_iff_left event, Progress.shown_eq_empty_iff]
    simp
  | ok rc =>
    have ended := freshLine_lineFeed
      (Output.shown admits (.event (.usingBundle bundle)) ++ Progress.shown w.progress)
    simpa using ended

/-- The line that tells of a failure begins a new line, except where the extractor broke off behind a
progress indicator: there nothing ends the indicator. -/
theorem carryOut_freshLine_iff (isThere : Bytes → Bool) (candidates : List Bytes) (loader : Loader)
    (args : List Bytes) (admits : Event → Bool) :
    let text := Output.written admits
      ((carryOut isThere candidates loader args).run start).2.stderr
    ∀ bundle w, Works isThere candidates loader args bundle w →
      (∀ d, diagnostic? w = some d →
        ∃ before, text = before ++ (d ++ "\n") ∧ (FreshLine before ↔ ¬BrokeOffShowing w)) ∧
      (diagnostic? w = none → FreshLine text) := by
  intro text bundle w works
  have written : text = _ := written_works works admits
  have fresh := freshLine_closing_iff admits bundle w
  refine ⟨?_, ?_⟩
  · intro d told
    rw [told] at written
    exact ⟨_, written, fresh⟩
  · intro untold
    have unbroken : ¬BrokeOffShowing w := by
      rintro ⟨⟨e, ending⟩, -⟩
      simp [diagnostic?, ending] at untold
    rw [untold, Option.elim_none, String.append_empty] at written
    rw [written]
    exact fresh.mpr unbroken

/-- Behind a report an extractor that comes back with 3 is told of on a line of its own. -/
theorem failure_begins_line :
    let w : Work := ⟨[⟨1, 2⟩], .ok 3⟩
    let loader : Loader := fun _ => .ok fun _ _ => w
    let text := Output.written (fun _ => false)
      ((carryOut (fun _ => true) [[0x62]] loader [[0x63], [0x6F]]).run start).2.stderr
    Works (fun _ => true) [[0x62]] loader [[0x63], [0x6F]] [0x62] w ∧
      ∃ before, text = before ++ ("extraction failed rc=3" ++ "\n") ∧ FreshLine before := by
  intro w loader text
  have works := works_same w [0x62] [0x63] [0x6F] []
  obtain ⟨told, -⟩ := carryOut_freshLine_iff _ _ _ _ (fun _ => false) [0x62] w works
  obtain ⟨before, written, fresh⟩ := told "extraction failed rc=3" rfl
  refine ⟨works, before, written, fresh.mpr ?_⟩
  rintro ⟨⟨e, brokeOff⟩, -⟩
  cases brokeOff

/-- The extractor breaks off behind one report, and its message stands on the indicator's line. -/
theorem message_behind_indicator :
    let w : Work := ⟨[⟨1, 2⟩], .error .cannotLoadHere⟩
    let loader : Loader := fun _ => .ok fun _ _ => w
    let text := Output.written (fun _ => false)
      ((carryOut (fun _ => true) [[0x62]] loader [[0x63], [0x6F]]).run start).2.stderr
    Works (fun _ => true) [[0x62]] loader [[0x63], [0x6F]] [0x62] w ∧
      ¬∀ d, diagnostic? w = some d → ∃ before, text = before ++ (d ++ "\n") ∧ FreshLine before := by
  intro w loader text
  refine ⟨works_same w [0x62] [0x63] [0x6F] [], ?_⟩
  intro afresh
  obtain ⟨before, written, fresh⟩ := afresh _ rfl
  have shown : text = "\rExtracting 1/2" ++ (ExtractionError.cannotLoadHere.message ++ "\n") := by
    decide
  rw [shown] at written
  have indicator : before = "\rExtracting 1/2" := (String.append_left_inj _).mp written.symm
  rw [indicator] at fresh
  exact absurd (fresh '2' (by decide)) (by decide)

/-! ## What the parent sees -/

/-- The extractor was put to work and came back with `rc`. -/
def Returns (isThere : Bytes → Bool) (candidates : List Bytes) (loader : Loader) (args : List Bytes)
    (rc : Int32) : Prop :=
  ∃ bundle w, Works isThere candidates loader args bundle w ∧ w.ending = .ok rc

theorem exitStatus_eq_zero_iff (code : Int32) : exitStatus code = 0 ↔ (256 : Int) ∣ code.toInt := by
  have low : (exitStatus code).toNat = code.toBitVec.toNat % 256 := by
    rw [exitStatus, UInt32.toNat_toUInt8]
    rfl
  have whole : code.toInt = if 2 * code.toBitVec.toNat < 2 ^ 32 then (code.toBitVec.toNat : Int)
      else code.toBitVec.toNat - 2 ^ 32 := BitVec.toInt_eq_toNat_cond code.toBitVec
  rw [← UInt8.toNat_inj, low, whole]
  simp only [UInt8.toNat_ofNat]
  -- a negative code is its bits less 2 ^ 32, of which 256 is a divisor
  split <;> omega

theorem run_returns {rc : Int32} (returns : Returns isThere candidates loader args rc) :
    ((carryOut isThere candidates loader args).run start).1 = rc ∧
      ∃ cache directory, args = [cache, directory] ∧
        ((carryOut isThere candidates loader args).run start).2.extracted = [(cache, directory)] := by
  obtain ⟨bundle, w, ⟨extractor, cache, directory, rfl, found, loaded, rfl⟩, ending⟩ := returns
  rw [run_finished found loaded ending]
  exact ⟨rfl, cache, directory, rfl, rfl⟩

/-- An extraction either ends with what its extractor returned, or with one of its own codes. -/
theorem code_cases (isThere : Bytes → Bool) (candidates : List Bytes) (loader : Loader)
    (args : List Bytes) :
    (∃ rc, Returns isThere candidates loader args rc) ∨
      ((carryOut isThere candidates loader args).run start).1 = wrongArguments ∨
      ((carryOut isThere candidates loader args).run start).1 = unavailable := by
  by_cases two : args.length = 2
  · obtain ⟨cache, directory, rfl⟩ := length_eq_two two
    cases found : Bundle.find? isThere candidates with
    | none => right; right; rw [run_noBundle found]
    | some bundle =>
      cases loaded : loader bundle with
      | error e => right; right; rw [run_cannotLoad found loaded]
      | ok extractor =>
        cases ending : (extractor cache directory).ending with
        | error e => right; right; rw [run_brokenOff found loaded ending]
        | ok rc =>
          left
          exact ⟨rc, bundle, _, ⟨extractor, cache, directory, rfl, found, loaded, rfl⟩, ending⟩
  · right; left; rw [run_wrongArguments two]

theorem Returns.unique {rc rc' : Int32} (h : Returns isThere candidates loader args rc)
    (h' : Returns isThere candidates loader args rc') : rc = rc' :=
  (run_returns h).1.symm.trans (run_returns h').1

theorem exitStatus_code_eq_zero_iff :
    exitStatus ((carryOut isThere candidates loader args).run start).1 = 0 ↔
      ∃ rc, Returns isThere candidates loader args rc ∧ (256 : Int) ∣ rc.toInt := by
  constructor
  · intro success
    rcases code_cases isThere candidates loader args with ⟨rc, returns⟩ | own | own
    · rw [(run_returns returns).1, exitStatus_eq_zero_iff] at success
      exact ⟨rc, returns, success⟩
    · rw [own] at success
      exact absurd success (by decide)
    · rw [own] at success
      exact absurd success (by decide)
  · rintro ⟨rc, returns, multiple⟩
    rw [(run_returns returns).1, exitStatus_eq_zero_iff]
    exact multiple

/-- The parent sees success exactly where the extractor was put to work and came back with a multiple of
256, of which 0 is the only one that is no failure. -/
theorem exitStatus_carryOut (isThere : Bytes → Bool) (loader : Loader) (args : List Bytes) :
    (∀ candidates,
      let done := (carryOut isThere candidates loader args).run start
      (exitStatus done.1 = 0 ↔
        ∃ rc, Returns isThere candidates loader args rc ∧ (256 : Int) ∣ rc.toInt) ∧
      ((exitStatus done.1 = 0 → Returns isThere candidates loader args 0) ↔
        ∀ rc, Returns isThere candidates loader args rc → (256 : Int) ∣ rc.toInt → rc = 0) ∧
      ∀ rc, Returns isThere candidates loader args rc →
        done.1 = rc ∧ ∃ cache directory, args = [cache, directory] ∧
          done.2.extracted = [(cache, directory)]) ∧
    ∀ env, (extractorProcess isThere loader env args).status = 0 ↔
      ∃ rc, Returns isThere (Bundle.candidates (env Bundle.variableName)) loader args rc ∧
        (256 : Int) ∣ rc.toInt := by
  refine ⟨?_, ?_⟩
  · intro candidates done
    have success : exitStatus done.1 = 0 ↔
        ∃ rc, Returns isThere candidates loader args rc ∧ (256 : Int) ∣ rc.toInt :=
      exitStatus_code_eq_zero_iff
    refine ⟨success, ?_, fun rc => run_returns⟩
    constructor
    · intro honest rc returns multiple
      exact returns.unique (honest (success.mpr ⟨rc, returns, multiple⟩))
    · intro only zero
      obtain ⟨rc, returns, multiple⟩ := success.mp zero
      exact only rc returns multiple ▸ returns
  · intro env
    exact exitStatus_code_eq_zero_iff

/-- An extractor that fails with 256 looks successful to the parent. -/
theorem failure_looks_successful :
    let loader : Loader := fun _ => .ok fun _ _ => ⟨[⟨2, 2⟩], .ok 256⟩
    let done := (carryOut (fun _ => true) [[0x62]] loader [[0x63], [0x6F]]).run start
    Returns (fun _ => true) [[0x62]] loader [[0x63], [0x6F]] 256 ∧
      Output.written (fun _ => false) done.2.stderr =
        "\rExtracting 2/2\nextraction failed rc=256\n" ∧
      ¬(exitStatus done.1 = 0 → Returns (fun _ => true) [[0x62]] loader [[0x63], [0x6F]] 0) := by
  intro loader done
  have returns : Returns (fun _ => true) [[0x62]] loader [[0x63], [0x6F]] 256 :=
    ⟨[0x62], _, works_same _ [0x62] [0x63] [0x6F] [], rfl⟩
  refine ⟨returns, by decide, ?_⟩
  intro honest
  have zero : exitStatus done.1 = 0 := by decide
  exact absurd (returns.unique (honest zero)) (by decide)

end Extraction

end SandboxProbe
