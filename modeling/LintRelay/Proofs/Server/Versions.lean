import LintRelay.Proofs.Server.Course
import LintRelay.Proofs.Server.Trace

/-!
# Versions that had their pass

A document that is analyzed unforced is left alone if its version had a pass. What had a pass can be
read off the trace: `recorded` is the version of the latest pass over a document, unless the
document was closed or all versions were dropped since. So can the document as it is kept (`kept`).
Both are what the session holds (`Mirrored`), and that is shown act by act.

Every request to analyze an open file leaves one `Validation` in the trace, which tells whether a
pass was run. `version_gate` says when that is so, and that versions only go up from pass to pass as
long as they go up in the editor.
-/

namespace LintRelay.Server

/-! ## What a trace tells about versions -/

/-- A request to analyze an open document that is a file, and what came of it. -/
structure Validation where
  /-- The document, as it was. -/
  document : Document
  /-- Its settings. -/
  settings : Settings
  /-- Whether it is to be analyzed whatever its version. -/
  forced : Bool
  /-- Whether a pass was run. -/
  ran : Bool

/-- The request that an event answers. -/
def Event.validation? : Event → Option Validation
  | .passed r => some ⟨r.document, r.settings, r.forced, true⟩
  | .noted (.declined d settings forced) => some ⟨d, settings, forced, false⟩
  | .sent _ | .closed _ | .noted _ => none

/-- What an event tells about the version of the latest pass over a document. -/
def Event.records? (uri : Uri) : Event → Option (Option Int)
  | .passed r => if r.document.uri = uri then some (some r.document.version) else none
  | .closed other => if other = uri then some none else none
  | .noted .flushed => some none
  | .sent _ | .noted _ => none

/-- The version of the latest pass over a document, unless the document was closed since or versions
were dropped. -/
def recorded (trace : List Event) (uri : Uri) : Option Int :=
  (latest? (Event.records? uri) trace).join

/-- What an event tells about the document that is kept under a URI. -/
def Event.keeps? (uri : Uri) : Event → Option (Option Document)
  | .noted (.stored d) => if d.uri = uri then some (some d) else none
  | .closed other => if other = uri then some none else none
  | .sent _ | .passed _ | .noted _ => none

/-- The document that is kept under a URI. -/
def kept (trace : List Event) (uri : Uri) : Option Document :=
  (latest? (Event.keeps? uri) trace).join

/-- The versions of a document never go down while it is open. -/
def Ascends (trace : List Event) (uri : Uri) : Prop :=
  ∀ {before after : List Event} {d d' : Document}, trace = before ++ .noted (.stored d) :: after →
    kept before uri = some d' → d.uri = uri → d'.version ≤ d.version

/-- Whether an event keeps the versions of a document from going down, given what was done before.
-/
def Event.ascends (before : List Event) (uri : Uri) : Event → Bool
  | .noted (.stored d) => d.uri ≠ uri || (kept before uri).all (·.version ≤ d.version)
  | _ => true

instance (trace : List Event) (uri : Uri) : Decidable (Ascends trace uri) :=
  decidable_of_iff (∀ i : Fin trace.length, (trace.get i).ascends (trace.take i) uri = true) <| by
    constructor
    · intro h before after d d' hsplit hkept huri
      subst hsplit
      have hi := h ⟨before.length, by simp⟩
      simpa [Event.ascends, huri, hkept] using hi
    · intro h i
      have hsplit : trace = trace.take i ++ trace.get i :: trace.drop (i + 1) := by simp
      generalize trace.get i = e at hsplit ⊢
      unfold Event.ascends
      split
      · next d =>
        cases hkept : kept (trace.take i) uri with
        | none => simp
        | some d' =>
          by_cases huri : d.uri = uri
          · simp [h hsplit hkept huri]
          · simp [huri]
      · rfl

section Views

variable (trace : List Event) (uri : Uri)

/-- Events that tell nothing about versions leave what is recorded. -/
theorem recorded_append {events : List Event} (h : ∀ e ∈ events, e.records? uri = none) :
    recorded (trace ++ events) uri = recorded trace uri := by
  unfold recorded
  rw [latest?_append_of_none h]

/-- Events that tell nothing about documents leave what is kept. -/
theorem kept_append {events : List Event} (h : ∀ e ∈ events, e.keeps? uri = none) :
    kept (trace ++ events) uri = kept trace uri := by
  unfold kept
  rw [latest?_append_of_none h]

/-- What is recorded after one more event. -/
theorem recorded_concat (e : Event) :
    recorded (trace ++ [e]) uri = (e.records? uri).getD (recorded trace uri) := by
  unfold recorded
  rw [latest?_concat]
  cases e.records? uri <;> rfl

/-- What is kept after one more event. -/
theorem kept_concat (e : Event) :
    kept (trace ++ [e]) uri = (e.keeps? uri).getD (kept trace uri) := by
  unfold kept
  rw [latest?_concat]
  cases e.keeps? uri <;> rfl

end Views

/-! ## The session and its trace -/

/-- A version had no pass if the one that is kept, if any, is lower. -/
theorem Session.isCurrent_eq_false {s : Session} {uri : Uri} {version : Int} :
    s.isCurrent uri version = false ↔
      ∀ last, s.versions.get? uri.text = some last → last < version := by
  unfold isCurrent
  cases s.versions.get? uri.text with
  | none => simp
  | some last => simp

/-- A version had its pass if the one that is kept is not lower. -/
theorem Session.isCurrent_of_get? {s : Session} {uri : Uri} {version last : Int}
    (hlast : s.versions.get? uri.text = some last) (hle : version ≤ last) :
    s.isCurrent uri version = true := by
  unfold isCurrent
  rw [hlast]
  exact decide_eq_true hle

/-- The documents and the versions of a session are those that its trace tells of. -/
structure Mirrored (s : Session) (trace : List Event) : Prop where
  /-- The open documents are those that are kept. -/
  document : ∀ uri : Uri, s.document? uri = kept trace uri
  /-- The versions are those that are recorded. -/
  version : ∀ uri : Uri, s.versions.get? uri.text = recorded trace uri

namespace Mirrored

variable {s s' : Session} {trace : List Event}

/-- Nothing is kept or recorded at first. -/
theorem empty : Mirrored .empty [] where
  document uri := by simp [Session.document?, Session.empty, kept, latest?]
  version uri := by simp [Session.empty, recorded, latest?]

/-- What leaves documents and versions alone, and tells nothing about them, keeps the invariant. -/
theorem aside (h : Mirrored s trace) (hdocuments : s'.documents = s.documents)
    (hversions : s'.versions = s.versions) {events : List Event}
    (hmute : ∀ uri : Uri, ∀ e ∈ events, e.records? uri = none ∧ e.keeps? uri = none) :
    Mirrored s' (trace ++ events) where
  document uri := by
    rw [kept_append trace uri fun e he => (hmute uri e he).2, ← h.document uri]
    unfold Session.document?
    rw [hdocuments]
  version uri := by
    rw [recorded_append trace uri fun e he => (hmute uri e he).1, ← h.version uri, hversions]

/-- Messages tell nothing about documents and versions. -/
theorem send (h : Mirrored s trace) (hdocuments : s'.documents = s.documents)
    (hversions : s'.versions = s.versions) (messages : List Message) :
    Mirrored s' (trace ++ messages.map .sent) :=
  h.aside hdocuments hversions fun _ e he => by
    obtain ⟨m, -, rfl⟩ := List.mem_map.1 he
    exact ⟨rfl, rfl⟩

/-- A document that is stored is kept. -/
theorem store (h : Mirrored s trace) (d : Document) :
    Mirrored (s.store d).session (trace ++ (s.store d).events) where
  document uri := by
    change (s.documents.insert d.uri.text d).get? uri.text =
      kept (trace ++ [.noted (.stored d)]) uri
    rw [kept_concat]
    by_cases huri : d.uri = uri
    · simp [Event.keeps?, huri]
    · simp only [Table.get?_insert, Uri.text_ne huri, Event.keeps?, huri, if_false,
        Option.getD_none]
      exact h.document uri
  version uri := by
    change s.versions.get? uri.text = recorded (trace ++ [.noted (.stored d)]) uri
    rw [recorded_concat]
    exact h.version uri

/-- A pass records the version of its document. -/
theorem perform (h : Mirrored s trace) (w : World) (d : Document) (request : PassRequest)
    (settings : Settings) (linters : List Linter) (forced : Bool) :
    Mirrored (s.perform w d request settings linters forced).session
      (trace ++ (s.perform w d request settings linters forced).events) := by
  rw [Session.perform_events, Session.conclude_events, List.append_cons]
  generalize hp : (⟨d, forced, request, settings, linters,
    Pass.run linters request (w.runner request)⟩ : PassRecord) = p
  have hdocument : p.document = d := by rw [← hp]
  have hpassed : Mirrored { s with versions := s.versions.insert d.uri.text d.version }
      (trace ++ [.passed p]) := by
    constructor
    case document =>
      intro uri
      rw [kept_concat]
      exact h.document uri
    case version =>
      intro uri
      change (s.versions.insert d.uri.text d.version).get? uri.text = _
      rw [recorded_concat, Event.records?, hdocument]
      by_cases huri : d.uri = uri
      · simp [huri]
      · simp only [Table.get?_insert, Uri.text_ne huri, huri, if_false, Option.getD_none]
        exact h.version uri
  -- What is said about the pass afterwards records nothing.
  refine hpassed.send ?_ ?_ _ <;> rfl

/-- A closed document is neither kept nor recorded. -/
theorem close (h : Mirrored s trace) (w : World) (uri : Uri) :
    Mirrored (s.closed w uri).session (trace ++ (s.closed w uri).events) := by
  obtain ⟨messages, hevents⟩ : ∃ messages : List Message,
      (s.closed w uri).events = messages.map .sent ++ [.closed uri] := ⟨_, rfl⟩
  have hsend : Mirrored s (trace ++ messages.map .sent) := h.send rfl rfl messages
  rw [hevents, ← List.append_assoc]
  constructor
  case document =>
    intro other
    change (s.documents.erase uri.text).get? other.text = _
    rw [kept_concat, Event.keeps?]
    by_cases huri : uri = other
    · simp [huri]
    · simp only [Table.get?_erase, Uri.text_ne huri, huri, if_false, Option.getD_none]
      exact hsend.document other
  case version =>
    intro other
    change (s.versions.erase uri.text).get? other.text = _
    rw [recorded_concat, Event.records?]
    by_cases huri : uri = other
    · simp [huri]
    · simp only [Table.get?_erase, Uri.text_ne huri, huri, if_false, Option.getD_none]
      exact hsend.version other

/-- Every act keeps the invariant. -/
theorem act (h : Mirrored s trace) {w : World} {r : Reaction} (hact : Act w s r) :
    Mirrored r.session (trace ++ r.events) := by
  have hmute : ∀ uri : Uri, ∀ e ∈ ([] : List Event), e.records? uri = none ∧ e.keeps? uri = none :=
    fun _ _ he => absurd he List.not_mem_nil
  cases hact with
  | introduce i _ => refine h.aside ?_ ?_ hmute <;> rfl
  | greet => refine h.send ?_ ?_ _ <;> rfl
  | store d => exact h.store d
  | resolve uri =>
    unfold Session.settingsOf
    split
    · refine h.aside ?_ ?_ hmute <;> rfl
    · refine h.send ?_ ?_ _ <;> rfl
  | prepare _ _ _ =>
    unfold Session.lintersOf
    split
    · refine h.aside ?_ ?_ hmute <;> rfl
    · refine h.send ?_ ?_ _ <;> rfl
  | perform trigger forced _ _ _ _ _ _ => exact h.perform w _ _ _ _ forced
  | decline forced _ _ _ _ =>
    refine h.aside rfl rfl fun uri e he => ?_
    obtain rfl := List.mem_singleton.1 he
    exact ⟨rfl, rfl⟩
  | await uri version => refine h.aside ?_ ?_ hmute <;> rfl
  | flush shared =>
    constructor
    case document =>
      intro uri
      change s.document? uri = kept (trace ++ [.noted .flushed]) uri
      rw [kept_concat]
      exact h.document uri
    case version =>
      intro uri
      change (∅ : Table Int).get? uri.text = recorded (trace ++ [.noted .flushed]) uri
      rw [recorded_concat, Table.get?_empty]
      rfl
  | close uri => exact h.close w uri
  | elapse milliseconds => refine h.aside ?_ ?_ hmute <;> rfl

/-- The trace of every course tells what its session holds. -/
theorem course (inputs : List (World × Input)) :
    Mirrored (Course.of inputs).connection.session (Course.of inputs).trace :=
  Course.keeps empty (fun _ _ hact h => h.act hact) (W := fun _ => True) fun _ _ => trivial

/-- A version had no pass if the one that is recorded, if any, is lower. -/
theorem isCurrent_eq_false (h : Mirrored s trace) {uri : Uri} {version : Int} :
    s.isCurrent uri version = false ↔ ∀ last, recorded trace uri = some last → last < version := by
  rw [Session.isCurrent_eq_false, h.version uri]

end Mirrored

/-! ## Requests and their answers -/

/-- A document has something to hand over if its text is not needed or can be copied. -/
theorem World.isSome_shadow? {w : World} {settings : Settings} {file text : String} :
    (w.shadow? settings file text).isSome = true ↔
      (settings.run = .onType → w.scratch.CanCopy file text) := by
  unfold shadow?
  by_cases htype : settings.run = .onType
  · simp [htype, Scratch.isSome_copy?]
  · simp [htype]

/-- Whether a request is answered by a pass: it is forced or the version had none, and the text can
be copied if it has to be. -/
def Session.runs (w : World) (s : Session) (d : Document) (file : String) (settings : Settings)
    (forced : Bool) : Bool :=
  (forced || !s.isCurrent d.uri d.version) && (w.shadow? settings file d.text).isSome

/-- When a request is answered by a pass. -/
theorem Session.runs_iff {w : World} {s : Session} {d : Document} {file : String}
    {settings : Settings} {forced : Bool} : s.runs w d file settings forced = true ↔
      (forced = true ∨ s.isCurrent d.uri d.version = false) ∧
        (settings.run = .onType → w.scratch.CanCopy file d.text) := by
  unfold runs
  simp only [Bool.and_eq_true, Bool.or_eq_true, Bool.not_eq_true', World.isSome_shadow?]

/-- The pass over a document, as the session has it. -/
def Session.record (w : World) (s : Session) (d : Document) (file : String) (settings : Settings)
    (trigger : Trigger) (forced : Bool) : PassRecord :=
  let root := workspaceRoot s.folders file
  let linters := (s.lintersOf w d.uri settings root).1
  let shadow := (w.shadow? settings file d.text).getD ""
  let request := requestOf d file root shadow settings trigger
  ⟨d, forced, request, settings, linters, Pass.run linters request (w.runner request)⟩

namespace Session

variable (w : World) (s : Session)

/-- Which linters a document has does not depend on the settings that are kept. -/
theorem lintersOf_fst (table : Table Settings) (uri : Uri) (settings : Settings) (root : String) :
    ({ s with settings := table }.lintersOf w uri settings root).1 =
      (s.lintersOf w uri settings root).1 := by
  unfold lintersOf
  cases s.linters.get? uri.text <;> rfl

/-- A pass is preceded and followed by messages only, and so is the note that there is none, since
the text cannot be copied. -/
theorem pass_events (d : Document) (file : String) (settings : Settings) (trigger : Trigger)
    (forced : Bool) : ∃ first last : List Message,
      (s.pass w d file settings trigger forced).events = first.map .sent ++
        (if (w.shadow? settings file d.text).isSome then
          .passed (s.record w d file settings trigger forced)
        else .noted (.declined d settings forced)) :: last.map .sent := by
  obtain ⟨table, first, hprepared, -⟩ :=
    s.lintersOf_spec w d.uri settings (workspaceRoot s.folders file)
  unfold pass record Reaction.andThen
  dsimp only
  rw [hprepared]
  cases w.shadow? settings file d.text with
  | none => exact ⟨first, [], by simp [note]⟩
  | some shadow =>
    dsimp only
    rw [Option.isSome_some, if_pos rfl, perform_events, conclude_events]
    exact ⟨first, _, rfl⟩

/-- The answer to a request about an open file is preceded and followed by messages only. -/
theorem validate_events {uri : Uri} {file : String} {d : Document} (trigger : Trigger)
    (forced : Bool) (hfile : uri.filePath? = some file) (hdocument : s.document? uri = some d)
    (hkeyed : s.Keyed) : ∃ first last : List Message,
      (s.validate w uri trigger forced).events = first.map .sent ++
        (if s.runs w d file (s.settingsOf w uri).1 forced then
          .passed (s.record w d file (s.settingsOf w uri).1 trigger forced)
        else .noted (.declined d (s.settingsOf w uri).1 forced)) :: last.map .sent := by
  obtain rfl := hkeyed.uri_eq hdocument
  obtain ⟨table, asked, hresolved, -⟩ := s.settingsOf_spec w d.uri
  unfold validate Reaction.andThen runs
  rw [hfile, hdocument]
  dsimp only
  rw [hresolved]
  generalize (s.settingsOf w d.uri).1 = settings
  -- Versions, folders and linters are not touched when settings are looked up.
  have hcurrent : { s with settings := table }.isCurrent d.uri d.version =
      s.isCurrent d.uri d.version := rfl
  have hrecord : { s with settings := table }.record w d file settings trigger forced =
      s.record w d file settings trigger forced := by
    unfold record
    dsimp only
    rw [lintersOf_fst]
  rw [hcurrent]
  split
  · next hskip =>
    have hskip : forced = false ∧ s.isCurrent d.uri d.version = true := by simpa using hskip
    exact ⟨asked, [], by simp [hskip, note]⟩
  · next hgo =>
    have hgo : (forced || !s.isCurrent d.uri d.version) = true := by
      simpa [Decidable.or_iff_not_imp_left] using hgo
    obtain ⟨first, last, hevents⟩ :=
      { s with settings := table }.pass_events w d file settings trigger forced
    rw [hevents, hrecord, hgo, Bool.true_and, ← List.append_assoc, ← List.map_append]
    exact ⟨asked ++ first, last, rfl⟩

/-- A request about an open file has one answer. -/
theorem validate_answers {uri : Uri} {file : String} {d : Document} (trigger : Trigger)
    (forced : Bool) (hfile : uri.filePath? = some file) (hdocument : s.document? uri = some d)
    (hkeyed : s.Keyed) :
    (s.validate w uri trigger forced).events.filterMap Event.validation? =
      [⟨d, (s.settingsOf w uri).1, forced, s.runs w d file (s.settingsOf w uri).1 forced⟩] := by
  have hsent : ∀ messages : List Message,
      (messages.map Event.sent).filterMap Event.validation? = [] := by
    intro messages
    rw [List.filterMap_map]
    exact List.filterMap_eq_nil_iff.2 fun _ _ => rfl
  obtain ⟨first, last, hevents⟩ := s.validate_events w trigger forced hfile hdocument hkeyed
  rw [hevents, List.filterMap_append, hsent, List.nil_append, List.filterMap_cons]
  split
  · next hnone => split at hnone <;> exact absurd hnone (by simp [Event.validation?])
  · next v hv =>
    rw [hsent]
    split at hv
    · next hran =>
      obtain rfl := Option.some.inj hv
      rw [hran]
      rfl
    · next hran =>
      obtain rfl := Option.some.inj hv
      rw [Bool.not_eq_true] at hran
      rw [hran]

end Session

/-- What is known of a request in the session in which it is answered. -/
structure Validation.Fits (w : World) (s : Session) (v : Validation) (file : String) : Prop where
  /-- The document is a file. -/
  named : v.document.uri.filePath? = some file
  /-- It is open. -/
  document : s.document? v.document.uri = some v.document
  /-- A pass was run if nothing stood against it. -/
  ran : v.ran = s.runs w v.document file v.settings v.forced

/-- An act answers a request first of all, if it answers one. -/
theorem Act.answers {w : World} {s : Session} {r : Reaction} (h : Act w s r) (hkeyed : s.Keyed)
    {before after : List Event} {e : Event} (hevents : r.events = before ++ e :: after)
    {v : Validation} (hv : e.validation? = some v) : before = [] ∧ ∃ file, v.Fits w s file := by
  have hmute : ∀ {events : List Event}, (∀ e ∈ events, e.validation? = none) →
      ∀ {first : List Event}, events ≠ first ++ e :: after := by
    rintro events hnone first rfl
    rw [hnone e (by simp)] at hv
    cases hv
  have hsent : ∀ (messages : List Message) {first : List Event},
      messages.map Event.sent ≠ first ++ e :: after :=
    fun messages _ => hmute (by simp [Event.validation?])
  have hnil : ∀ {first : List Event}, ([] : List Event) ≠ first ++ e :: after := hmute (by simp)
  cases h with
  | introduce i _ => exact absurd hevents hnil
  | greet => exact absurd hevents (hsent _)
  | store d =>
    exact absurd hevents (hmute (by simp [Session.store, Session.note, Event.validation?]))
  | resolve uri =>
    obtain ⟨table, messages, hresolved, -⟩ := s.settingsOf_spec w uri
    rw [hresolved] at hevents
    exact absurd hevents (hsent _)
  | @prepare uri file d settings _ _ _ =>
    obtain ⟨table, messages, hprepared, -⟩ :=
      s.lintersOf_spec w d.uri settings (workspaceRoot s.folders file)
    rw [hprepared] at hevents
    exact absurd hevents (hsent _)
  | @perform uri file d settings linters shadow trigger forced hfile hdocument _ _ hversion hcopy =>
    obtain rfl := hkeyed.uri_eq hdocument
    rw [Session.perform_events, Session.conclude_events] at hevents
    cases before with
    | cons first rest => exact absurd (List.cons.inj hevents).2 (hsent _)
    | nil =>
      obtain rfl := (List.cons.inj hevents).1
      obtain rfl := Option.some.inj hv
      have hcopy := World.isSome_shadow?.1 (Option.isSome_of_eq_some hcopy)
      exact ⟨rfl, file, hfile, hdocument, (Session.runs_iff.2 ⟨hversion, hcopy⟩).symm⟩
  | @decline uri file d settings forced hfile hdocument _ hreason =>
    obtain rfl := hkeyed.uri_eq hdocument
    cases before with
    | cons first rest => exact absurd (List.cons.inj hevents).2 hnil
    | nil =>
      obtain rfl := (List.cons.inj hevents).1
      obtain rfl := Option.some.inj hv
      have hruns : s.runs w d file settings forced = false := by
        unfold Session.runs
        rcases hreason with ⟨hforced, hcurrent⟩ | ⟨-, hcopy⟩
        · simp [hforced, hcurrent]
        · simp [hcopy]
      exact ⟨rfl, file, hfile, hdocument, hruns.symm⟩
  | await uri version => exact absurd hevents hnil
  | flush shared =>
    exact absurd hevents (hmute (by simp [Session.flush, Session.note, Event.validation?]))
  | close uri =>
    refine absurd hevents (hmute fun e he => ?_)
    rcases List.mem_append.1 he with he | he
    · obtain ⟨m, -, rfl⟩ := List.mem_map.1 he
      rfl
    · obtain rfl := List.mem_singleton.1 he
      rfl
  | elapse milliseconds => exact absurd hevents hnil

/-- What a trace tells about a request that is answered in a world: it is about the document that is
kept, and a pass is run if it is forced or the version that is recorded is lower, and if the text
can be copied in that world where it has to be. -/
def Validation.Answered (w : World) (before : List Event) (v : Validation) : Prop :=
  ∃ file, v.document.uri.filePath? = some file ∧ kept before v.document.uri = some v.document ∧
    (v.ran = true ↔ (v.forced = true ∨
        ∀ last, recorded before v.document.uri = some last → last < v.document.version) ∧
      (v.settings.run = .onType → w.scratch.CanCopy file v.document.text))

/-- Along every course, each request is answered as the trace tells, in the world in which it is
answered. -/
theorem Course.answered {inputs : List (World × Input)} {w : World} {before : List Event}
    {e : Event} (hdone : DoneIn inputs w before e) {v : Validation} (hv : e.validation? = some v) :
    v.Answered w before := by
  refine forall_done (W := fun _ => True) (I := Mirrored)
    (Q := fun w before e => ∀ v, e.validation? = some v → v.Answered w before)
    Mirrored.empty (fun _ _ hact h => h.act hact) ?_ (fun _ _ => trivial) hdone v hv
  intro w s r trace _ hkeyed hact hmirrored before e after hevents v hv
  obtain ⟨rfl, file, hfits⟩ := hact.answers hkeyed hevents hv
  unfold Validation.Answered
  rw [List.append_nil, ← hmirrored.document, ← hmirrored.isCurrent_eq_false]
  refine ⟨file, hfits.named, hfits.document, ?_⟩
  rw [hfits.ran]
  exact Session.runs_iff

/-- Along every course, each request is answered in some world. -/
theorem Course.exists_answered {inputs : List (World × Input)} {before after : List Event}
    {e : Event} (hsplit : (of inputs).trace = before ++ e :: after) {v : Validation}
    (hv : e.validation? = some v) : ∃ w, v.Answered w before := by
  obtain ⟨w, hdone⟩ := exists_doneIn hsplit
  exact ⟨w, answered hdone hv⟩

/-! ## Versions that go up -/

/-- The document that is kept and the version that is recorded are no lower than a bound. -/
def Above (trace : List Event) (uri : Uri) (bound : Int) : Prop :=
  (∃ d, kept trace uri = some d ∧ bound ≤ d.version) ∧
    ∃ last, recorded trace uri = some last ∧ bound ≤ last

/-- One event does not lead below a bound, if versions go up and it neither closes the document nor
drops what is recorded. -/
theorem Above.concat {trace : List Event} {uri : Uri} {bound : Int} (h : Above trace uri bound)
    {e : Event} (hclosed : e ≠ .closed uri) (hflushed : e ≠ .noted .flushed)
    (hpassed : ∀ r, e = .passed r → kept trace r.document.uri = some r.document)
    (hstored : ∀ d d', e = .noted (.stored d) → kept trace uri = some d' → d.uri = uri →
      d'.version ≤ d.version) :
    Above (trace ++ [e]) uri bound := by
  obtain ⟨⟨d, hkept, hd⟩, last, hrecorded, hlast⟩ := h
  unfold Above
  rw [kept_concat, recorded_concat, hkept, hrecorded]
  cases e with
  | sent m => exact ⟨⟨d, rfl, hd⟩, last, rfl, hlast⟩
  | passed r =>
    refine ⟨⟨d, rfl, hd⟩, ?_⟩
    by_cases huri : r.document.uri = uri
    · -- The pass is over the document that is kept, which is above the bound.
      have hdocument := hpassed r rfl
      rw [huri, hkept] at hdocument
      obtain rfl := Option.some.inj hdocument
      exact ⟨r.document.version, by simp [Event.records?, huri], hd⟩
    · exact ⟨last, by simp [Event.records?, huri], hlast⟩
  | closed other =>
    have hother : other ≠ uri := fun hother => hclosed (congrArg Event.closed hother)
    exact ⟨⟨d, by simp [Event.keeps?, hother], hd⟩, last, by simp [Event.records?, hother], hlast⟩
  | noted n =>
    cases n with
    | stored d' =>
      refine ⟨?_, last, rfl, hlast⟩
      by_cases huri : d'.uri = uri
      · have hle : d.version ≤ d'.version := hstored d' d rfl hkept huri
        exact ⟨d', by simp [Event.keeps?, huri], by omega⟩
      · exact ⟨d, by simp [Event.keeps?, huri], hd⟩
    | flushed => exact absurd rfl hflushed
    | declined d' settings forced => exact ⟨⟨d, rfl, hd⟩, last, rfl, hlast⟩

/-- Along a course, events do not lead below a bound, if versions go up and none closes the document
or drops what is recorded. -/
theorem Above.append {inputs : List (World × Input)} {uri : Uri}
    (hascends : Ascends (Course.of inputs).trace uri) {bound : Int}
    {before between after : List Event}
    (hsplit : (Course.of inputs).trace = before ++ (between ++ after))
    (h : Above before uri bound) (hclosed : .closed uri ∉ between)
    (hflushed : .noted .flushed ∉ between) : Above (before ++ between) uri bound := by
  induction between generalizing before with
  | nil =>
    rw [List.append_nil]
    exact h
  | cons e rest ih =>
    have hstep : Above (before ++ [e]) uri bound := by
      refine h.concat (fun he => hclosed (by simp [he])) (fun he => hflushed (by simp [he])) ?_ ?_
      · rintro r rfl
        obtain ⟨-, -, -, hkept, -⟩ := Course.exists_answered hsplit rfl
        exact hkept
      · rintro d d' rfl hkept huri
        exact hascends hsplit hkept huri
    rw [List.append_cons]
    refine ih ?_ hstep (fun he => hclosed (List.mem_cons_of_mem _ he))
      fun he => hflushed (List.mem_cons_of_mem _ he)
    rw [hsplit, List.append_assoc]
    rfl

/-- An unforced pass over a document is at a higher version than every pass before it, if versions
go up and the document was not closed in between, nor versions dropped. -/
theorem version_lt_of_passes {inputs : List (World × Input)} {uri : Uri}
    (hascends : Ascends (Course.of inputs).trace uri) {before between after : List Event}
    {r r' : PassRecord}
    (hsplit : (Course.of inputs).trace = before ++ .passed r :: (between ++ .passed r' :: after))
    (huri : r.document.uri = uri) (huri' : r'.document.uri = uri) (hforced : r'.forced = false)
    (hclosed : .closed uri ∉ between) (hflushed : .noted .flushed ∉ between) :
    r.document.version < r'.document.version := by
  have hstart : Above (before ++ [.passed r]) uri r.document.version := by
    obtain ⟨-, -, -, hkept, -⟩ := Course.exists_answered hsplit rfl
    unfold Above
    rw [kept_concat, recorded_concat, ← huri]
    exact ⟨⟨r.document, hkept, Int.le_refl _⟩, r.document.version, by simp [Event.records?],
      Int.le_refl _⟩
  have hsplit : (Course.of inputs).trace =
      before ++ [.passed r] ++ (between ++ .passed r' :: after) := by
    rw [hsplit, List.append_cons]
  obtain ⟨-, last, hrecorded, hlast⟩ := hstart.append hascends hsplit hclosed hflushed
  -- What is recorded before the later pass is at least the earlier version, and lower than its own.
  rw [← List.append_assoc] at hsplit
  obtain ⟨_, _, -, -, hran⟩ := Course.exists_answered hsplit rfl
  have hgate : r'.forced = true ∨ ∀ last,
      recorded (before ++ [.passed r] ++ between) r'.document.uri = some last →
        last < r'.document.version := (hran.1 rfl).1
  rw [hforced, huri'] at hgate
  have hlt : last < r'.document.version := hgate.resolve_left Bool.false_ne_true last hrecorded
  exact Int.lt_of_le_of_lt hlast hlt

/-- Every request to analyze an open file has one answer. Along every course, an unforced one is
answered by a pass exactly if no pass over the document is recorded or the latest was at a lower
version, and the text can be copied if it has to be, in the world in which the request is answered.
So an unforced pass is at a higher version than all passes before it, if versions go up while the
document is open, unless the document was closed in between or versions were dropped. -/
theorem version_gate (inputs : List (World × Input)) :
    (∀ (w : World) {s : Session} {uri : Uri} {file : String} {d : Document} (trigger : Trigger)
      (forced : Bool), s.Keyed → uri.filePath? = some file → s.document? uri = some d →
      ∃ settings ran, (s.validate w uri trigger forced).events.filterMap Event.validation? =
        [⟨d, settings, forced, ran⟩]) ∧
    (∀ {before after : List Event} {e : Event} {v : Validation},
      (Course.of inputs).trace = before ++ e :: after → e.validation? = some v → v.forced = false →
      (∃ w, Course.DoneIn inputs w before e) ∧
      ∀ w, Course.DoneIn inputs w before e →
        ∃ file, v.document.uri.filePath? = some file ∧
          kept before v.document.uri = some v.document ∧
          (v.ran = true ↔
            (∀ last, recorded before v.document.uri = some last → last < v.document.version) ∧
            (v.settings.run = .onType → w.scratch.CanCopy file v.document.text))) ∧
    (∀ {uri : Uri} {before between after : List Event} {r r' : PassRecord},
      Ascends (Course.of inputs).trace uri →
      (Course.of inputs).trace = before ++ .passed r :: (between ++ .passed r' :: after) →
      r.document.uri = uri → r'.document.uri = uri → r'.forced = false →
      .closed uri ∉ between → .noted .flushed ∉ between →
      r.document.version < r'.document.version) := by
  refine ⟨?_, ?_, fun hascends => version_lt_of_passes hascends⟩
  · intro w s uri file d trigger forced hkeyed hfile hdocument
    exact ⟨_, _, s.validate_answers w trigger forced hfile hdocument hkeyed⟩
  · intro before after e v hsplit hv hforced
    refine ⟨Course.exists_doneIn hsplit, fun w hdone => ?_⟩
    obtain ⟨file, hfile, hkept, hran⟩ := Course.answered hdone hv
    rw [hforced] at hran
    exact ⟨file, hfile, hkept, by simpa using hran⟩

namespace SavedOnce

/-- The document, when it is opened. -/
def document : Document := ⟨⟨"file:///ws/a.c"⟩, "", 1⟩

/-- It is opened, changed and saved. -/
def inputs : List (World × Input) :=
  [(.bare, .introduces ⟨"file:///ws"⟩ (.object [("run", .string "onSave")])),
    (.bare, .opens document), (.bare, .changes { document with version := 2 }),
    (.bare, .saves document.uri)]

end SavedOnce

/-- The pass over a document that is saved is at a higher version than that over it when it was
opened. -/
theorem saved_above_opened :
    (∃ settings ran, ((Course.of SavedOnce.inputs).connection.session.validate .bare
      SavedOnce.document.uri .onSave true).events.filterMap Event.validation? =
        [⟨{ SavedOnce.document with version := 2 }, settings, true, ran⟩]) ∧
    ∃ (before between after : List Event) (r r' : PassRecord),
      (Course.of SavedOnce.inputs).trace =
        before ++ .passed r :: (between ++ .passed r' :: after) ∧
      r.document = SavedOnce.document ∧ r'.document.uri = SavedOnce.document.uri ∧
      kept (before ++ .passed r :: between) SavedOnce.document.uri = some r'.document ∧
      (∀ last, recorded (before ++ .passed r :: between) r'.document.uri = some last →
        last < r'.document.version) ∧
      SavedOnce.document.version < r'.document.version := by
  obtain ⟨hone, hgate, horder⟩ := version_gate SavedOnce.inputs
  have hrun : SavedOnce.document.uri.filePath? = some "/ws/a.c" ∧
      (Course.of SavedOnce.inputs).connection.session.document? SavedOnce.document.uri =
        some { SavedOnce.document with version := 2 } ∧
      Ascends (Course.of SavedOnce.inputs).trace SavedOnce.document.uri ∧
      (Course.of SavedOnce.inputs).trace.all (fun e => match e with
        | .closed _ | .noted .flushed => false
        | _ => true) = true ∧
      ((Course.of SavedOnce.inputs).trace.filterMap Event.pass?).map (fun r =>
        (r.document, r.forced)) = [(SavedOnce.document, false),
          ({ SavedOnce.document with version := 2 }, false)] := by
    decide +kernel
  obtain ⟨hfile, hdocument, hascends, hmute, hpasses⟩ := hrun
  constructor
  · exact hone .bare .onSave true (Course.keyed _) hfile hdocument
  · obtain ⟨r, rest, hpasses, hr, hrest⟩ := List.map_eq_cons_iff.1 hpasses
    obtain ⟨before, e, later, hfirst, -, he, hpasses⟩ := List.filterMap_eq_cons_iff.1 hpasses
    obtain ⟨r', rest, rfl, hr', -⟩ := List.map_eq_cons_iff.1 hrest
    obtain ⟨between, e', after, hsecond, -, he', -⟩ := List.filterMap_eq_cons_iff.1 hpasses
    obtain rfl := Event.eq_passed he
    obtain rfl := Event.eq_passed he'
    obtain ⟨hdocument, -⟩ := Prod.mk.inj hr
    obtain ⟨hdocument', hforced'⟩ := Prod.mk.inj hr'
    have huri' : r'.document.uri = SavedOnce.document.uri := by rw [hdocument']
    rw [hsecond] at hfirst
    have hmem : ∀ e ∈ between, e ∈ (Course.of SavedOnce.inputs).trace := by
      intro e he
      rw [hfirst]
      simp [he]
    have hclosed : .closed SavedOnce.document.uri ∉ between := fun he =>
      absurd (List.all_eq_true.1 hmute _ (hmem _ he)) Bool.false_ne_true
    have hflushed : .noted .flushed ∉ between := fun he =>
      absurd (List.all_eq_true.1 hmute _ (hmem _ he)) Bool.false_ne_true
    have hlt := horder hascends hfirst (by rw [hdocument]) huri' hforced' hclosed hflushed
    have hsplit : (Course.of SavedOnce.inputs).trace =
        (before ++ .passed r :: between) ++ .passed r' :: after := by
      rw [hfirst, List.append_assoc]
      rfl
    obtain ⟨⟨w, hdone⟩, hgate⟩ := hgate hsplit rfl hforced'
    obtain ⟨_, -, hkept, hran⟩ := hgate w hdone
    rw [hdocument] at hlt
    exact ⟨before, between, after, r, r', hfirst, hdocument, huri', huri' ▸ hkept, (hran.1 rfl).1,
      hlt⟩

namespace Uncopied

/-- A document whose unsaved text cannot be copied: its extension holds a character that no file
name can have. -/
def document : Document := ⟨⟨"file:///ws/a.%00"⟩, "", 1⟩

/-- It is opened in a workspace whose documents are analyzed while they are edited. -/
def inputs : List (World × Input) :=
  [(.bare, .introduces ⟨"file:///ws"⟩ (.object [("run", .string "onType")])),
    (.bare, .opens document)]

end Uncopied

/-- A document had no pass and gets none, since its text cannot be copied. -/
theorem declined_without_pass : ∃ (before after : List Event) (e : Event) (v : Validation),
    (Course.of Uncopied.inputs).trace = before ++ e :: after ∧ e.validation? = some v ∧
      v.forced = false ∧ v.document = Uncopied.document ∧
      recorded before v.document.uri = none ∧ v.ran = false := by
  have hrun : (((Course.of Uncopied.inputs).trace.getLast?.bind Event.validation?).map fun v =>
      (v.forced, v.document, recorded (Course.of Uncopied.inputs).trace.dropLast v.document.uri,
        v.ran)) = some (false, Uncopied.document, none, false) := by
    decide +kernel
  obtain ⟨v, hv, hrun⟩ := Option.map_eq_some_iff.1 hrun
  obtain ⟨e, he, hv⟩ := Option.bind_eq_some_iff.1 hv
  obtain ⟨before, hbefore⟩ := List.getLast?_eq_some_iff.1 he
  rw [hbefore, List.dropLast_concat] at hrun
  simp only [Prod.mk.injEq] at hrun
  obtain ⟨hforced, hdocument, hrecorded, hran⟩ := hrun
  exact ⟨before, [], e, v, hbefore, hv, hforced, hdocument, hrecorded, hran⟩

end LintRelay.Server
