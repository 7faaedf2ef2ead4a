import Mathlib
import SandboxProbe.Proofs.Confinement

/-!
# Names and texts tell error numbers apart

Both the name and the text of an error number are the entry of a table, or a label with the number behind
it. `name_text_determine`: either of them determines the number, for the entries are distinct and none
of them looks like a label; so a record shows its error number twice.
-/

namespace SandboxProbe

namespace Errno

/-- The entry of a table, or the label and the number. -/
def rendered (table : List (Int × String)) (label : String) (e : Errno) : String :=
  (find? table e).getD (label ++ decimal e.code)

theorem text_eq_rendered (e : Errno) : e.text = rendered texts "Unknown error: " e := rfl

theorem decimal_injective {m n : Int32} (h : decimal m = decimal n) : m = n :=
  Int32.toInt_inj.mp (Int.repr_injective h)

theorem mem_of_find? {table : List (Int × String)} {e : Errno} {t : String}
    (h : find? table e = some t) : (e.code.toInt, t) ∈ table := by
  obtain ⟨before, after, rfl, -⟩ := List.lookup_eq_some_iff.mp h
  simp

section
variable {table : List (Int × String)} {label : String}
  (hdistinct : (table.map Prod.snd).Nodup)
  (happart : ∀ t ∈ table, ∀ n : Int32, t.2 ≠ label ++ decimal n)
include hdistinct happart

/-- An entry is shown for its own number alone. -/
theorem rendered_eq_entry {e : Errno} {t : Int × String} (ht : t ∈ table)
    (h : rendered table label e = t.2) : e.code.toInt = t.1 := by
  unfold rendered at h
  cases hf : find? table e with
  | some s =>
    rw [hf, Option.getD_some] at h
    have hsame : (e.code.toInt, s) = t :=
      List.inj_on_of_nodup_map hdistinct (mem_of_find? hf) ht h
    rw [← hsame]
  | none =>
    rw [hf, Option.getD_none] at h
    exact absurd h.symm (happart t ht e.code)

theorem rendered_injective : Function.Injective (rendered table label) := by
  intro e e' h
  have hentry : ∀ {e e' : Errno} {s : String}, find? table e = some s →
      rendered table label e = rendered table label e' → e = e' := by
    intro e e' s hf h
    have hs : rendered table label e = s := by rw [rendered, hf, Option.getD_some]
    have hcode := rendered_eq_entry hdistinct happart (mem_of_find? hf) (h.symm.trans hs)
    exact congrArg mk (Int32.toInt_inj.mp hcode.symm)
  cases hf : find? table e with
  | some s => exact hentry hf h
  | none =>
    cases hf' : find? table e' with
    | some s => exact (hentry hf' h.symm).symm
    | none =>
      rw [rendered, rendered, hf, hf', Option.getD_none, Option.getD_none] at h
      exact congrArg mk (decimal_injective ((String.append_right_inj label).mp h))

end

/-! ## The two tables -/

/-- The bytes of a text. The tables are compared through them, which is faster than through texts. -/
def bytes (s : String) : Bytes :=
  s.toByteArray.data.toList

theorem ne_append_of_head? {s label : String} {b : UInt8} (hs : (bytes s).head? ≠ some b)
    (hlabel : (bytes label).head? = some b) (rest : String) : s ≠ label ++ rest := by
  rintro rfl
  apply hs
  simp only [bytes] at hlabel ⊢
  simp [List.head?_append, hlabel]

theorem names_distinct : (names.map Prod.snd).Nodup := by decide

theorem texts_distinct : (texts.map Prod.snd).Nodup := by
  have hbytes : ((texts.map Prod.snd).map bytes).Nodup := by decide +kernel
  exact hbytes.of_map bytes

theorem names_apart : ∀ t ∈ names, ∀ n : Int32, t.2 ≠ "errno_" ++ decimal n := by
  have hfirst : ∀ t ∈ names, (bytes t.2).head? ≠ some 0x65 := by decide +kernel
  exact fun t ht n => ne_append_of_head? (hfirst t ht) (by decide +kernel) _

theorem texts_apart : ∀ t ∈ texts, ∀ n : Int32, t.2 ≠ "Unknown error: " ++ decimal n := by
  have hfirst : ∀ t ∈ texts, (bytes t.2).head? ≠ some 0x55 := by decide +kernel
  exact fun t ht n => ne_append_of_head? (hfirst t ht) (by decide +kernel) _

theorem name_injective : Function.Injective name :=
  rendered_injective names_distinct names_apart

theorem text_injective : Function.Injective text :=
  rendered_injective texts_distinct texts_apart

/-- A text that is in no table and does not look like the label describes no error number. -/
theorem text_ne {s : String} (hs : ∀ t ∈ texts, t.2 ≠ s) (hfirst : (bytes s).head? ≠ some 0x55)
    (e : Errno) : e.text ≠ s := by
  rw [text_eq_rendered, rendered]
  cases hf : find? texts e with
  | some t => exact hs _ (mem_of_find? hf)
  | none => exact (ne_append_of_head? hfirst (by decide +kernel) _).symm

end Errno

/-! ## Records -/

namespace Record

/-- What some run leaves, on some host and under some way to put profiles in force. -/
def OfRun (record : Record) : Prop :=
  ∃ (σ : Type) (r : Request) (host : Host σ) (enforce : Option Profile → Action σ Verdict)
    (s : Session σ), record = ((r.fulfilWith host enforce).run s).1

/-- A record with the names that belong to its error numbers. -/
def Named (record : Record) : Prop :=
  record.errnoName = record.errno.map Errno.name ∧
    record.verdict.errnoName = record.verdict.errno.map Errno.name

theorem named_ofReport (target : Target) (v : Verdict) (report : Report) :
    (ofReport target v report).Named :=
  ⟨rfl, rfl⟩

theorem OfRun.named {record : Record} (h : record.OfRun) : record.Named := by
  obtain ⟨σ, r, host, enforce, s, rfl⟩ := h
  by_cases hrc : ((enforce (some r.profile)).run s).1.rc = 0
  · rw [r.run_fulfilWith_of_holds host enforce s hrc]
    exact named_ofReport _ _ _
  · rw [r.run_fulfilWith_of_not_holds host enforce s hrc]
    exact named_ofReport _ _ _

/-- What a failed record shows is an error number, and either its text or one of two fixed messages. -/
structure ShowsFailure (record : Record) (e : Errno) : Prop where
  errno : record.errno = some e
  message : record.message = some e.text ∨ record.message = some "open failed" ∨
    record.message = some "path contains NUL byte"

theorem showsFailure_ofReport (target : Target) (v : Verdict) {o : Outcome}
    (h : o.report.status = .failed) : ∃ e, (ofReport target v o.report).ShowsFailure e := by
  cases o with
  | done call => cases h
  | failed e => exact ⟨e, rfl, .inl rfl⟩
  | openFailed e => exact ⟨e, rfl, .inr (.inl rfl)⟩
  | pathHoldsNul => exact ⟨.invalid, rfl, .inr (.inr rfl)⟩
  | offMenu op syscall => cases h

theorem OfRun.showsFailure {record : Record} (h : record.OfRun) (hf : record.status = .failed) :
    ∃ e, record.ShowsFailure e := by
  obtain ⟨σ, r, host, enforce, s, rfl⟩ := h
  by_cases hrc : ((enforce (some r.profile)).run s).1.rc = 0
  · rw [r.run_fulfilWith_of_holds host enforce s hrc] at hf ⊢
    exact showsFailure_ofReport _ _ hf
  · rw [r.run_fulfilWith_of_not_holds host enforce s hrc] at hf
    cases hf

theorem ShowsFailure.text {record : Record} {e : Errno} (h : record.ShowsFailure e)
    (hopen : record.message ≠ some "open failed")
    (hnul : record.message ≠ some "path contains NUL byte") : record.message = some e.text := by
  rcases h.message with htext | h' | h'
  · exact htext
  · exact absurd h' hopen
  · exact absurd h' hnul

end Record

/-- Two error numbers never share a name or a text, and the entries of the tables are shown for their
own numbers alone. So the names in a record determine its error numbers, and the message of a failed
record determines its error number, two messages apart, which are no error number's text. -/
theorem name_text_determine :
    Function.Injective Errno.name ∧ Function.Injective Errno.text ∧
    (∀ e : Errno, ∀ t ∈ Errno.names, e.name = t.2 → e.code.toInt = t.1) ∧
    (∀ e : Errno, ∀ t ∈ Errno.texts, e.text = t.2 → e.code.toInt = t.1) ∧
    (∀ e : Errno, e.text ≠ "open failed" ∧ e.text ≠ "path contains NUL byte") ∧
    (∀ a : Record, a.OfRun → a.Named) ∧
    (∀ a b : Record, a.Named → b.Named →
      (a.errnoName = b.errnoName → a.errno = b.errno) ∧
      (a.verdict.errnoName = b.verdict.errnoName → a.verdict.errno = b.verdict.errno)) ∧
    ∀ a b : Record, a.OfRun → b.OfRun → a.status = .failed → b.status = .failed →
      a.message ≠ some "open failed" → a.message ≠ some "path contains NUL byte" →
      a.message = b.message → a.errno = b.errno := by
  refine ⟨Errno.name_injective, Errno.text_injective, fun e t ht => ?_, fun e t ht => ?_,
    fun e => ⟨?_, ?_⟩, fun a h => h.named, fun a b ha hb => ⟨fun h => ?_, fun h => ?_⟩, ?_⟩
  · exact Errno.rendered_eq_entry Errno.names_distinct Errno.names_apart ht
  · exact Errno.rendered_eq_entry Errno.texts_distinct Errno.texts_apart ht
  · exact Errno.text_ne (by decide +kernel) (by decide +kernel) e
  · exact Errno.text_ne (by decide +kernel) (by decide +kernel) e
  · rw [ha.1, hb.1] at h
    exact Option.map_injective Errno.name_injective h
  · rw [ha.2, hb.2] at h
    exact Option.map_injective Errno.name_injective h
  · intro a b ha hb hfa hfb hopen hnul hsame
    obtain ⟨e, he⟩ := ha.showsFailure hfa
    obtain ⟨e', he'⟩ := hb.showsFailure hfb
    have htext := he.text hopen hnul
    have htext' := he'.text (hsame ▸ hopen) (hsame ▸ hnul)
    rw [hsame, htext'] at htext
    rw [he.errno, he'.errno, Errno.text_injective (Option.some.inj htext)]

end SandboxProbe
