import Mathlib.Data.List.Forall2
import SandboxProbe.Host.Script
import SandboxProbe.Proofs.Log.Emission
import SandboxProbe.Proofs.Text.Lines

/-!
# One line for each event

Values are shown as they are, so an event is one line exactly where nothing that it shows from outside
holds a line feed. `log_lined_iff` says so of every log and says, for each operation, which texts these
are. Line by line nothing can be taken for another event; across line feeds it can.
-/

namespace SandboxProbe

variable {σ : Type}

namespace Event

/-! ## The parts of a line -/

def field (f : String × String) : List Char :=
  ' ' :: f.1.toList ++ '=' :: f.2.toList

def fieldsText (fields : List (String × String)) : List Char :=
  fields.flatMap field

def body (e : Event) : List Char :=
  e.level.column.toList ++ ' ' :: e.message.toList ++ fieldsText e.fields

theorem toList_line (e : Event) : e.line.toList = e.body ++ ['\n'] := by
  have hfields : (String.join (e.fields.map fun f => " " ++ f.1 ++ "=" ++ f.2)).toList =
      fieldsText e.fields := by
    rw [String.toList_join, List.flatMap_map, fieldsText]
    congr 1
    funext f
    simp [field]
  change (e.level.column ++ " " ++ e.message ++
    String.join (e.fields.map fun f => " " ++ f.1 ++ "=" ++ f.2) ++ "\n").toList = _
  simp [body, hfields]

theorem toList_text_cons (e : Event) (events : List Event) :
    (text (e :: events)).toList = e.body ++ '\n' :: (text events).toList := by
  rw [text, List.map_cons, String.join_cons, String.toList_append, toList_line, List.append_assoc]
  rfl

/-- Every message, with the names of the fields behind it. -/
def layouts : List (String × List String) :=
  [("applying sbpl profile", ["path"]),
   ("applying compiled profile blob", ["path"]),
   ("dlopen succeeded", ["path"]),
   ("libsandbox unavailable", ["error"]),
   ("sandbox_apply missing", ["error"]),
   ("sandbox apply failed; skipping operation", ["rc", "mode"]),
   ("unsupported combination", ["op", "syscall"]),
   ("dispatching metadata call", ["syscall", "path"]),
   ("using extractor bundle", ["bundle"])]

def layout (e : Event) : String × List String :=
  (e.message, e.fields.map (·.1))

theorem layout_mem (e : Event) : e.layout ∈ layouts := by
  cases e with
  | enforcing p => cases p <;> simp [layout, layouts, message, fields]
  | _ => simp [layout, layouts, message, fields]

theorem layouts_prefix_free :
    ∀ a ∈ layouts, ∀ b ∈ layouts, a.1.toList <+: b.1.toList → a = b := by
  decide

theorem lineFeed_notMem_layouts :
    ∀ a ∈ layouts, '\n' ∉ a.1.toList ∧ ∀ name ∈ a.2, '\n' ∉ name.toList := by
  decide

theorem length_column (l : Level) : l.column.toList.length = 5 := by
  cases l <;> rfl

theorem column_injective {l l' : Level} : l.column.toList = l'.column.toList → l = l' := by
  cases l <;> cases l' <;> decide

theorem lineFeed_notMem_column (l : Level) : '\n' ∉ l.column.toList := by
  cases l <;> decide

/-! ## Line feeds of an event -/

/-- The value in an event that is text from outside, or has such text in it. -/
def foreign : Event → String
  | .enforcing profile => Text.Utf8.lossy profile.path
  | .libraryOpened path | .dispatching _ path | .usingBundle path => Text.Utf8.lossy path
  | .libraryUnavailable error | .symbolMissing error => error.message
  | .notEnforced _ _ => ""
  | .offMenu _ syscall => syscall

def Unbroken (s : String) : Prop :=
  ' ' ∉ s.toList ∧ '\n' ∉ s.toList

theorem unbroken_marked_operation (op : Operation) : Unbroken (marked op.word) := by
  cases op <;> simp [Unbroken, marked, Operation.word]

theorem unbroken_marked_call (call : MenuCall) : Unbroken (marked call.name) := by
  cases call <;> simp [Unbroken, marked, MenuCall.name]

theorem unbroken_title (kind : ProfileKind) : Unbroken kind.title := by
  cases kind <;> simp [Unbroken, ProfileKind.title]

theorem unbroken_repr (n : Nat) : Unbroken (Nat.repr n) := by
  have hdigit : ∀ c ∈ (Nat.repr n).toList, c.isDigit := by
    intro c hc
    rw [Nat.repr, String.toList_ofList] at hc
    exact Nat.isDigit_of_mem_toDigits (by decide) (by decide) hc
  exact ⟨fun h => absurd (hdigit _ h) (by decide), fun h => absurd (hdigit _ h) (by decide)⟩

theorem unbroken_decimal (n : Int32) : Unbroken (Errno.decimal n) := by
  change Unbroken (Int.repr n.toInt)
  cases n.toInt with
  | ofNat m => exact unbroken_repr m
  | negSucc m => simpa [Unbroken, Int.repr] using unbroken_repr (m + 1)

theorem count_fieldsText {fields : List (String × String)}
    (h : ∀ f ∈ fields, '\n' ∉ f.1.toList) :
    (fieldsText fields).count '\n' = (fields.flatMap (·.2.toList)).count '\n' := by
  induction fields with
  | nil => rfl
  | cons f fields ih =>
    have hname := List.count_eq_zero.mpr (h f List.mem_cons_self)
    rw [fieldsText, List.flatMap_cons, List.count_append, List.flatMap_cons, List.count_append,
      ← fieldsText, ih fun f' hf' => h f' (List.mem_cons_of_mem _ hf')]
    simp [field, hname]

theorem count_values (e : Event) :
    (e.fields.flatMap (·.2.toList)).count '\n' = e.foreign.toList.count '\n' := by
  cases e with
  | notEnforced rc kind =>
    simp [fields, foreign, List.count_eq_zero.mpr (unbroken_decimal rc).2,
      List.count_eq_zero.mpr (unbroken_title kind).2]
  | offMenu op syscall =>
    simp [fields, foreign, List.count_eq_zero.mpr (unbroken_marked_operation op).2]
  | dispatching call path =>
    simp [fields, foreign, List.count_eq_zero.mpr (unbroken_marked_call call).2]
  | _ => simp [fields, foreign]

theorem count_body (e : Event) : e.body.count '\n' = e.foreign.toList.count '\n' := by
  obtain ⟨hmessage, hnames⟩ := lineFeed_notMem_layouts _ e.layout_mem
  have hfields : ∀ f ∈ e.fields, '\n' ∉ f.1.toList := fun f hf =>
    hnames f.1 (List.mem_map_of_mem hf)
  rw [body, List.count_append, List.count_append, count_fieldsText hfields, count_values,
    List.count_eq_zero.mpr (lineFeed_notMem_column _), List.count_cons_of_ne (by decide),
    show e.message.toList.count '\n' = 0 from List.count_eq_zero.mpr hmessage]
  omega

/-! ## What a line tells -/

def shown (e : Event) : Level × String × List (String × String) :=
  (e.level, e.message, e.fields)

theorem unbroken_values (e : Event) : ∀ f ∈ e.fields.dropLast, Unbroken f.2 := by
  cases e with
  | notEnforced rc kind => simpa [fields] using unbroken_decimal rc
  | offMenu op syscall => simpa [fields] using unbroken_marked_operation op
  | dispatching call path => simpa [fields] using unbroken_marked_call call
  | _ => simp [fields]

/-- A value ends at its first blank, unless it is the last one. -/
theorem fieldsText_inj {fields fields' : List (String × String)}
    (hnames : fields.map (·.1) = fields'.map (·.1))
    (h : ∀ f ∈ fields.dropLast, Unbroken f.2) (h' : ∀ f ∈ fields'.dropLast, Unbroken f.2)
    (htext : fieldsText fields = fieldsText fields') : fields = fields' := by
  induction fields generalizing fields' with
  | nil => exact (List.map_eq_nil_iff.mp hnames.symm).symm
  | cons f rest ih =>
    obtain ⟨name, value⟩ := f
    cases fields' with
    | nil => cases hnames
    | cons f' rest' =>
      obtain ⟨name', value'⟩ := f'
      obtain ⟨hname, hrest⟩ := List.cons.inj hnames
      obtain rfl : name = name' := hname
      have hvalues : value.toList ++ fieldsText rest = value'.toList ++ fieldsText rest' := by
        simpa [fieldsText, field] using htext
      cases rest with
      | nil =>
        obtain rfl := List.map_eq_nil_iff.mp hrest.symm
        simp only [fieldsText, List.flatMap_nil, List.append_nil] at hvalues
        rw [String.toList_inj.mp hvalues]
      | cons g rest =>
        cases rest' with
        | nil => cases hrest
        | cons g' rest' =>
          have hv : ' ' ∉ value.toList := (h _ List.mem_cons_self).1
          have hv' : ' ' ∉ value'.toList := (h' _ List.mem_cons_self).1
          obtain ⟨hvalue, htail⟩ := Text.append_cons_inj hv hv' hvalues
          rw [String.toList_inj.mp hvalue,
            ih hrest (fun f hf => h f (List.mem_cons_of_mem _ hf))
              (fun f hf => h' f (List.mem_cons_of_mem _ hf)) (congrArg (' ' :: ·) htail)]

theorem shown_of_body {e e' : Event} (h : e.body = e'.body) : e.shown = e'.shown := by
  rw [body, body, List.append_assoc, List.append_assoc] at h
  obtain ⟨hcolumn, htail⟩ := List.append_inj h (by rw [length_column, length_column])
  have htail : e.message.toList ++ fieldsText e.fields =
      e'.message.toList ++ fieldsText e'.fields := (List.cons.inj htail).2
  -- both messages begin the same text, so one of them begins the other
  have hlayout : e.layout = e'.layout := by
    rcases List.prefix_or_prefix_of_prefix (List.prefix_append _ (fieldsText e.fields))
      (htail ▸ List.prefix_append _ (fieldsText e'.fields)) with hp | hp
    · exact layouts_prefix_free _ e.layout_mem _ e'.layout_mem hp
    · exact (layouts_prefix_free _ e'.layout_mem _ e.layout_mem hp).symm
  obtain ⟨hmessage, hnames⟩ := Prod.mk.inj hlayout
  rw [hmessage] at htail
  have hfields := fieldsText_inj hnames (unbroken_values e) (unbroken_values e')
    (List.append_cancel_left htail)
  rw [shown, shown, column_injective hcolumn, hmessage, hfields]

/-! ## Logs -/

/-- The log has as many lines as there are events, and each starts with the level of its event. -/
def Lined (events : List Event) : Prop :=
  List.Forall₂ (fun line e => e.level.column.toList <+: line) (Text.lines (text events).toList) events

theorem length_lines (events : List Event) :
    (Text.lines (text events).toList).length =
      events.length + (events.flatMap (·.foreign.toList)).count '\n' := by
  induction events with
  | nil => rfl
  | cons e events ih =>
    rw [toList_text_cons, Text.length_lines_append, ih, count_body, List.flatMap_cons,
      List.count_append, List.length_cons]
    omega

theorem lines_text {events : List Event} (h : ∀ e ∈ events, '\n' ∉ e.foreign.toList) :
    Text.lines (text events).toList = events.map body := by
  induction events with
  | nil => rfl
  | cons e events ih =>
    have hbody : '\n' ∉ e.body := by
      rw [← List.count_eq_zero, count_body, List.count_eq_zero]
      exact h e List.mem_cons_self
    rw [toList_text_cons, Text.lines_append hbody, ih fun e' he' => h e' (List.mem_cons_of_mem _ he'),
      List.map_cons]

theorem lined_iff (events : List Event) :
    Lined events ↔ ∀ e ∈ events, '\n' ∉ e.foreign.toList := by
  constructor
  · -- a line too many would be there for each line feed
    intro h e he hfeed
    have hlength := length_lines events
    rw [h.length_eq] at hlength
    have hnone : (events.flatMap (·.foreign.toList)).count '\n' = 0 := by omega
    exact List.count_eq_zero.mp hnone (List.mem_flatMap.mpr ⟨e, he, hfeed⟩)
  · intro h
    rw [Lined, lines_text h, List.forall₂_map_left_iff]
    exact List.forall₂_same.mpr fun e _ =>
      ⟨' ' :: e.message.toList ++ fieldsText e.fields, by rw [body, List.append_assoc]⟩

theorem map_shown_of_map_body : ∀ {events events' : List Event},
    events.map body = events'.map body → events.map shown = events'.map shown
  | [], [], _ => rfl
  | e :: events, e' :: events', h => by
    obtain ⟨hbody, hrest⟩ := List.cons.inj h
    rw [List.map_cons, List.map_cons, shown_of_body hbody, map_shown_of_map_body hrest]

theorem shown_of_text {events events' : List Event} (h : Lined events) (h' : Lined events')
    (htext : text events = text events') : events.map shown = events'.map shown := by
  apply map_shown_of_map_body
  rw [← lines_text ((lined_iff _).mp h), ← lines_text ((lined_iff _).mp h'), htext]

theorem lined_append {a b : List Event} : Lined (a ++ b) ↔ Lined a ∧ Lined b := by
  simp only [lined_iff, List.mem_append, or_imp, forall_and]

theorem lined_nil : Lined [] := .nil

theorem lined_cons {e : Event} {events : List Event} :
    Lined (e :: events) ↔ '\n' ∉ e.foreign.toList ∧ Lined events := by
  rw [lined_iff, lined_iff, List.forall_mem_cons]

theorem lined_singleton {e : Event} : Lined [e] ↔ '\n' ∉ e.foreign.toList := by
  rw [lined_cons, and_iff_left lined_nil]

end Event

open Event (Lined lined_nil lined_cons lined_singleton lined_append)

/-! ## Texts from outside -/

namespace LoadError

variable {path symbol reason : String}

theorem lineFeed_mem_cannotOpen :
    '\n' ∈ (cannotOpen path reason).message.toList ↔ '\n' ∈ path.toList ∨ '\n' ∈ reason.toList := by
  change '\n' ∈ ("dlopen " ++ path ++ " failed: " ++ reason).toList ↔ _
  simp

theorem lineFeed_mem_noSymbol :
    '\n' ∈ (noSymbol symbol reason).message.toList ↔
      '\n' ∈ symbol.toList ∨ '\n' ∈ reason.toList := by
  change '\n' ∈ ("dlsym " ++ symbol ++ " failed: " ++ reason).toList ↔ _
  simp

end LoadError

/-- No line feed stands in the text that the loader leaves, up to its end. -/
def Lookup.OneLine (answer : Lookup) : Prop :=
  ∀ e said, answer = .missing e (some said) → 10 ∉ said.takeWhile (· ≠ 0)

theorem Lookup.oneLine_found (e : Option Errno) : (found e).OneLine := by
  rintro e' said ⟨⟩

theorem Lookup.oneLine_missing {e : Option Errno} {said : Option Bytes} :
    (missing e said).OneLine ↔ '\n' ∉ (Library.reasonOf said).toList := by
  cases said with
  | none => simp [OneLine, Library.reasonOf]
  | some said =>
    rw [Library.reasonOf, Text.Utf8.lineFeed_mem_lossy]
    constructor
    · exact fun h => h e said rfl
    · rintro h _ _ ⟨⟩
      exact h

namespace Profile

/-- No line feed stands in what putting a profile in force shows: its path, and what the loader says
where it refuses the library or its symbol. -/
structure OneLine (host : Host σ) (p : Profile) : Prop where
  path : 10 ∉ p.path
  opening : ∀ path, p = .blob path → (host.library library).OneLine
  lookingUp : ∀ path e, p = .blob path → host.library library = .found e →
    (host.symbol entryPoint).OneLine

theorem lined_entryEvents (host : Host σ) :
    Lined (entryEvents host) ↔ (host.symbol entryPoint).OneLine := by
  have hentryPoint : '\n' ∉ entryPoint.toList := by decide
  unfold entryEvents
  cases host.symbol entryPoint with
  | missing e said =>
    simp [lined_singleton, Event.foreign, LoadError.lineFeed_mem_noSymbol, hentryPoint,
      Lookup.oneLine_missing]
  | found e => simp [lined_nil, Lookup.oneLine_found]

theorem lined_passageEvents (host : Host σ) :
    Lined (passageEvents host) ↔ (host.library library).OneLine ∧
      ∀ e, host.library library = .found e → (host.symbol entryPoint).OneLine := by
  have hlibrary : '\n' ∉ (Text.Utf8.lossy library).toList := by
    rw [Text.Utf8.lineFeed_mem_lossy]
    decide
  unfold passageEvents
  cases host.library library with
  | missing e said =>
    simp [lined_singleton, Event.foreign, LoadError.lineFeed_mem_cannotOpen, hlibrary,
      Lookup.oneLine_missing]
  | found e =>
    simp [lined_cons, lined_entryEvents, Event.foreign, hlibrary, Lookup.oneLine_found]

theorem lined_events (host : Host σ) (p : Option Profile) :
    Lined (events host p) ↔ ∀ profile, p = some profile → profile.OneLine host := by
  rcases p with _ | path | path
  · simp [events, lined_nil]
  · rw [events, lined_singleton, Event.foreign, Text.Utf8.lineFeed_mem_lossy]
    constructor
    · rintro h _ ⟨⟩
      exact ⟨h, by simp, by simp⟩
    · exact fun h => (h _ rfl).path
  · rw [events, lined_cons, Event.foreign, Text.Utf8.lineFeed_mem_lossy, lined_passageEvents]
    constructor
    · rintro ⟨hpath, hlibrary, hentryPoint⟩ _ ⟨⟩
      exact ⟨hpath, fun _ _ => hlibrary, fun _ e _ => hentryPoint e⟩
    · intro h
      have plain := h _ rfl
      exact ⟨plain.path, plain.opening path rfl, fun e => plain.lookingUp path e rfl⟩

end Profile

namespace MenuCall

theorem lined_events (path : Bytes) (call : MenuCall) :
    Lined (call.events path) ↔ (Library.holdsNul path = false → 10 ∉ path) := by
  unfold events
  cases hn : Library.holdsNul path with
  | true => simp [lined_nil]
  | false => simp [lined_singleton, Event.foreign, Text.Utf8.lineFeed_mem_lossy]

end MenuCall

namespace Library

theorem lined_events (host : Host σ) (path : Bytes) :
    Lined (events host path) ↔
      ∀ e, holdsNul path = false → host.library path = .found e → 10 ∉ path := by
  unfold events
  cases hn : holdsNul path with
  | true => simp [lined_nil]
  | false =>
    cases hl : host.library path with
    | found e => simp [lined_singleton, Event.foreign, Text.Utf8.lineFeed_mem_lossy]
    | missing e said => simp [lined_nil]

end Library

namespace Request

/-- No line feed stands in what the call that is asked for shows: a name that is not on the menu, or a
path that a call is made on. -/
structure OneLine (r : Request) : Prop where
  syscall : r.syscall ∉ r.op.names → '\n' ∉ r.syscall.toList
  path : r.syscall ∈ r.op.names → '\x00' ∉ r.path.toList → '\n' ∉ r.path.toList

theorem lined_callEvents (r : Request) : Lined r.callEvents ↔ r.OneLine := by
  unfold callEvents
  cases hc : r.op.call? r.syscall with
  | none =>
    have hm := call?_eq_none_iff.mp hc
    rw [lined_singleton]
    exact ⟨fun h => ⟨fun _ => h, fun h' => absurd h' hm⟩, fun h => h.syscall hm⟩
  | some call =>
    have hm : r.syscall ∈ r.op.names := by
      refine Decidable.byContradiction fun h => ?_
      rw [call?_eq_none_iff.mpr h] at hc
      cases hc
    have hpath : 10 ∈ Text.Utf8.encode r.path ↔ '\n' ∈ r.path.toList := by
      rw [← Text.Utf8.lineFeed_mem_lossy, Text.Utf8.lossy_encode]
    have hnul : Library.holdsNul (Text.Utf8.encode r.path) = false ↔ '\x00' ∉ r.path.toList := by
      rw [← Text.Utf8.holdsNul_encode, Bool.not_eq_true]
    simp only [MenuCall.lined_events, hpath, hnul]
    exact ⟨fun h => ⟨fun h' => absurd hm h', fun _ => h⟩, fun h => h.path hm⟩

theorem lined_eventsAfter (r : Request) (v : Verdict) :
    Lined (r.eventsAfter v) ↔ (v.rc = 0 → r.OneLine) := by
  unfold eventsAfter
  split
  case isTrue h => simp [lined_callEvents, h]
  case isFalse h => simp [lined_singleton, Event.foreign, h]

end Request

/-! ## Every log -/

/-- A log has one line for each event, which starts with its level, exactly where no text from outside
that it shows holds a line feed; every such line feed adds a line. Two logs that have it and read alike
tell the same. For each operation the texts that matter are named: the path of the profile, what the
loader says, the path of a call, and a name that is not on the menu. -/
theorem log_lined_iff (host : Host σ) (state : σ) (errno : Errno) (pending : Option Bytes) :
    let start := Session.start state errno pending
    (∀ events : List Event,
      (Text.lines (Event.text events).toList).length =
        events.length + (events.flatMap (·.foreign.toList)).count '\n' ∧
      (Lined events ↔ ∀ e ∈ events, '\n' ∉ e.foreign.toList)) ∧
    (∀ events events', Lined events → Lined events' → Event.text events = Event.text events' →
      events.map Event.shown = events'.map Event.shown) ∧
    (∀ p, Lined ((Profile.enforce host p).run start).2.events ↔
      ∀ profile, p = some profile → profile.OneLine host) ∧
    (∀ path flags names, Lined ((Library.survey host path flags names).run start).2.events ↔
      ∀ e, Library.holdsNul path = false → host.library path = .found e → 10 ∉ path) ∧
    (∀ (call : MenuCall) mode path, Lined ((call.issue host mode path).run start).2.events ↔
      (Library.holdsNul path = false → 10 ∉ path)) ∧
    (∀ (r : Request) (enforce : Option Profile → Action σ Verdict),
      let entered := (enforce (some r.profile)).run start
      Lined ((r.fulfilWith host enforce).run start).2.events ↔
        Lined entered.2.events ∧ (entered.1.rc = 0 → r.OneLine)) ∧
    ∀ r : Request, Lined ((r.fulfil host).run start).2.events ↔
      r.profile.OneLine host ∧
        (((Profile.enforce host (some r.profile)).run start).1.rc = 0 → r.OneLine) := by
  intro start
  have hwith : ∀ (r : Request) (enforce : Option Profile → Action σ Verdict),
      Lined ((r.fulfilWith host enforce).run start).2.events ↔
        Lined ((enforce (some r.profile)).run start).2.events ∧
          (((enforce (some r.profile)).run start).1.rc = 0 → r.OneLine) := by
    intro r enforce
    rw [Request.events_fulfilWith, lined_append, Request.lined_eventsAfter]
  have henforce : ∀ p, Lined ((Profile.enforce host p).run start).2.events ↔
      ∀ profile, p = some profile → profile.OneLine host := by
    intro p
    rw [Profile.events_enforce]
    exact Profile.lined_events host p
  refine ⟨fun events => ⟨Event.length_lines events, Event.lined_iff events⟩,
    fun _ _ => Event.shown_of_text, henforce, fun path flags names => ?_, fun call mode path => ?_,
    hwith, fun r => ?_⟩
  · rw [Library.events_survey]
    exact Library.lined_events host path
  · rw [MenuCall.events_issue]
    exact MenuCall.lined_events path call
  · rw [Request.fulfil, hwith, henforce]
    simp

/-- A line feed in a path begins a second line, and what follows it reads as an event that did not
happen. -/
theorem path_imitates_event :
    let script : Script :=
      { errno := .zero, pending := none, clock := ⟨1700000000, 0⟩, owner := ⟨501, 20⟩, fd := 1000
        reply := fun _ => .ok, file := fun _ => .error .noEntry
        library := .missing none none, symbol := fun _ => .missing none none }
    let path := Text.Utf8.encode "f\nDEBUG dlopen succeeded path=x"
    let events := (script.run (MenuCall.lstat.issue · 0o640 path)).2.events
    events = [.dispatching .lstat path] ∧ ¬ Lined events ∧
      Event.text events =
        Event.text [.dispatching .lstat (Text.Utf8.encode "f"),
          .libraryOpened (Text.Utf8.encode "x")] := by
  intro script path events
  have hevents : events = [.dispatching .lstat path] := by decide
  refine ⟨hevents, ?_, ?_⟩
  · rw [hevents, lined_singleton, Event.foreign, Text.Utf8.lineFeed_mem_lossy]
    decide
  · rw [hevents]
    decide

end SandboxProbe
