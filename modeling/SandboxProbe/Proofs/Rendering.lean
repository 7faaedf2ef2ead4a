import SandboxProbe.Proofs.Json.Grammar
import SandboxProbe.Proofs.Json.Layout
import SandboxProbe.Proofs.Json.RoundTrip
import SandboxProbe.Record

/-!
# What a printed record says

The text of a record is one JSON document, and the document holds the record and nothing else.
`printed_rows`: it stands in seventeen lines that begin alike for all records.
-/

namespace SandboxProbe

namespace Json

section
variable {α : Type} {f : α → Json}

theorem sortKeys_ofOption (hf : ∀ a, sortKeys (f a) = f a) (o : Option α) :
    sortKeys (ofOption f o) = ofOption f o := by
  cases o with
  | none => simp only [ofOption, sortKeys]
  | some a => exact hf a

theorem distinct_ofOption (hf : ∀ a, Distinct (f a)) (o : Option α) :
    Distinct (ofOption f o) := by
  cases o with
  | none => simp only [ofOption, Distinct]
  | some a => exact hf a

theorem ofOption_inj (hn : ∀ a, f a ≠ .null) (hf : ∀ a b, f a = f b → a = b) {o o' : Option α} :
    ofOption f o = ofOption f o' ↔ o = o' := by
  refine ⟨fun h => ?_, fun h => by rw [h]⟩
  cases o with
  | none =>
    cases o' with
    | none => rfl
    | some b => exact absurd h.symm (hn b)
  | some a =>
    cases o' with
    | none => exact absurd h (hn a)
    | some b => rw [hf a b h]

end

theorem rowsBelow_ofOption {α : Type} {f : α → Json} {depth : Nat}
    (hf : ∀ a, rowsBelow depth (f a) = []) (o : Option α) : rowsBelow depth (ofOption f o) = [] := by
  cases o with
  | none => rfl
  | some a => exact hf a

theorem ofOption_string_inj {o o' : Option String} :
    ofOption .string o = ofOption .string o' ↔ o = o' :=
  ofOption_inj (fun _ null => by cases null) (fun _ _ same => by cases same; rfl)

end Json

theorem Errno.toJson_injective (e e' : Errno) (h : e.toJson = e'.toJson) : e = e' := by
  obtain ⟨code⟩ := e
  obtain ⟨code'⟩ := e'
  injection h with number
  have same : code = code' := Int32.toInt_inj.mp number
  rw [same]

theorem Errno.ofOption_toJson_inj {o o' : Option Errno} :
    Json.ofOption toJson o = Json.ofOption toJson o' ↔ o = o' :=
  Json.ofOption_inj (fun _ null => by cases null) toJson_injective

theorem Status.word_inj {s s' : Status} : s.word = s'.word ↔ s = s' := by
  cases s <;> cases s' <;> decide

theorem ProfileKind.word_inj {k k' : ProfileKind} : k.word = k'.word ↔ k = k' := by
  cases k <;> cases k' <;> decide

namespace Record

/-- The document of a record, its keys in order. -/
def document (r : Record) : Json :=
  .object
    [("apply", .object
      [("errno", Json.ofOption Errno.toJson r.verdict.errno),
       ("errno_name", Json.ofOption .string r.verdict.errnoName),
       ("message", Json.ofOption .string r.verdict.message),
       ("mode", .string r.verdict.kind.word),
       ("rc", .number r.verdict.rc.toInt)]),
     ("attr_payload", Json.ofOption .string r.payload),
     ("errno", Json.ofOption Errno.toJson r.errno),
     ("errno_name", Json.ofOption .string r.errnoName),
     ("message", Json.ofOption .string r.message),
     ("op", .string r.op),
     ("path", .string r.path),
     ("status", .string r.status.word),
     ("syscall", .string r.syscall)]

theorem sortKeys_toJson (r : Record) : r.toJson.sortKeys = r.document := by
  have string : ∀ s, Json.sortKeys (.string s) = .string s := fun s => by simp only [Json.sortKeys]
  have errno : ∀ e : Errno, e.toJson.sortKeys = e.toJson :=
    fun e => by simp only [Errno.toJson, Json.sortKeys]
  simp only [toJson, VerdictRecord.toJson, Json.sortKeys, Json.sortFields, Json.insertField,
    Json.sortKeys_ofOption string, Json.sortKeys_ofOption errno, String.reduceLT, ↓reduceIte,
    document]

theorem distinct_document (r : Record) : Json.Distinct r.document := by
  have string : ∀ s, Json.Distinct (.string s) := fun s => by simp only [Json.Distinct]
  have errno : ∀ e : Errno, e.toJson.Distinct :=
    fun e => by simp only [Errno.toJson, Json.Distinct]
  simp [document, Json.Distinct, Json.DistinctFields, Json.distinct_ofOption string,
    Json.distinct_ofOption errno]

theorem document_injective {r r' : Record} (h : r.document = r'.document) : r = r' := by
  obtain ⟨op, path, syscall, payload, status, errno, errnoName, message, rc, errno', errnoName',
    message', kind⟩ := r
  obtain ⟨op₂, path₂, syscall₂, payload₂, status₂, errno₂, errnoName₂, message₂, rc₂, errno₂',
    errnoName₂', message₂', kind₂⟩ := r'
  simp only [document, Json.object.injEq, List.cons.injEq, Prod.mk.injEq, true_and, and_true,
    Json.string.injEq, Json.number.injEq, Json.ofOption_string_inj, Errno.ofOption_toJson_inj,
    Status.word_inj, ProfileKind.word_inj, Int32.toInt_inj] at h
  obtain ⟨⟨rfl, rfl, rfl, rfl, rfl⟩, rfl, rfl, rfl, rfl, rfl, rfl, rfl, rfl⟩ := h
  rfl

/-- The text of a record is one document of the format, the reader finds in it exactly the fields of the
record with their values, and no other record has the same text. -/
theorem render_round_trip (r : Record) :
    Json.Document r.document r.render ∧ Json.read? r.render = some r.document ∧
      ∀ r' : Record, r.render = r'.render → r = r' := by
  have read : ∀ r : Record, Json.read? r.render = some r.document := by
    intro r
    rw [render, sortKeys_toJson]
    exact Json.read?_pretty r.distinct_document
  refine ⟨Json.read?_sound (read r), read r, ?_⟩
  intro r' same
  have documents : some r.document = some r'.document := by
    rw [← read r, ← read r', same]
  exact document_injective (Option.some.inj documents)

/-! ## The lines of a record -/

/-- What the lines of a printed record begin with. -/
def rows : List Json.Row :=
  [.opening,
   .field 1 "apply",
   .field 2 "errno", .field 2 "errno_name", .field 2 "message", .field 2 "mode", .field 2 "rc",
   .closing 1,
   .field 1 "attr_payload", .field 1 "errno", .field 1 "errno_name", .field 1 "message",
   .field 1 "op", .field 1 "path", .field 1 "status", .field 1 "syscall",
   .closing 0]

/-- The keys that stand at a depth, from top to bottom. -/
def keysAt (depth : Nat) : List String :=
  rows.filterMap fun
    | .field d key => if d = depth then some key else none
    | _ => none

theorem rows_document (r : Record) : .opening :: Json.rowsBelow 0 r.document = rows := by
  have hstring : ∀ depth s, Json.rowsBelow depth (.string s) = [] := fun _ _ => rfl
  have herrno : ∀ depth (e : Errno), Json.rowsBelow depth e.toJson = [] := fun _ _ => rfl
  simp only [document, Json.rowsBelow, Json.rows, Json.rowsBelow_ofOption (hstring _),
    Json.rowsBelow_ofOption (herrno _), rows]
  rfl

theorem laid_render (r : Record) : Json.Laid r.render.toList rows := by
  rw [render, sortKeys_toJson, ← rows_document r]
  exact Json.laid_pretty _ _

theorem keysAt_ascending (depth : Nat) :
    ((keysAt depth).map Text.Utf8.encode).Pairwise (· < ·) := by
  match depth with
  | 0 => decide
  | 1 => decide
  | 2 => decide
  | _ + 3 => simp [keysAt, rows]

/-- Every record is printed in the same seventeen lines, each with its line feed, and of all rows its
lines show these. Their keys ascend at each depth, byte by byte, and no character of the text is a
control character but the seventeen line feeds. -/
theorem printed_rows (r : Record) :
    let text := r.printed.toList
    (Text.lines text).length = 17 ∧ text.count '\n' = 17 ∧
    (∃ before, text = before ++ ['\x7d', '\n']) ∧
    (∀ shape, List.Forall₂ Json.Shown (Text.lines text) shape ↔ shape = rows) ∧
    keysAt 1 =
      ["apply", "attr_payload", "errno", "errno_name", "message", "op", "path", "status",
       "syscall"] ∧
    keysAt 2 = ["errno", "errno_name", "message", "mode", "rc"] ∧
    (∀ depth, ((keysAt depth).map Text.Utf8.encode).Pairwise (· < ·)) ∧
    ∀ c ∈ text, c.toNat < 0x20 → c = '\n' := by
  intro text
  have htext : text = r.render.toList ++ ['\n'] := by simp [text, printed]
  have hlaid : List.Forall₂ Json.Shown (Text.lines text) rows := by
    rw [htext]
    exact r.laid_render
  have hlength : (Text.lines text).length = 17 := hlaid.length_eq
  refine ⟨hlength, ?_, ?_, ?_, rfl, rfl, keysAt_ascending, ?_⟩
  · have hcount := Text.length_lines_append r.render.toList []
    rw [← htext, hlength] at hcount
    rw [htext, List.count_append, List.count_cons_self, List.count_nil]
    simp only [Text.lines, List.length_nil] at hcount
    omega
  · obtain ⟨before, hends⟩ := Json.pretty_ends _ _
    refine ⟨before, ?_⟩
    rw [htext, render, sortKeys_toJson, document, hends, List.append_assoc]
    rfl
  · intro shape
    constructor
    · intro h
      exact Json.shown_rows_unique h hlaid
    · rintro rfl
      exact hlaid
  · intro c hc hlt
    by_contra hne
    obtain ⟨line, hline, hmem⟩ := Text.mem_lines hc hne
    have hplain := Json.plain_of_shown hlaid line hline
    exact Nat.not_le.mpr hlt (hplain c hmem)

end Record

end SandboxProbe
