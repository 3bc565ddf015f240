import LintRelay.Proofs.Pass
import LintRelay.Server.Connection
import Mathlib.Data.List.Induction

/-!
# The course of a server

All that a server does, whatever comes in, is made up of a few acts on its session: a document is
stored, settings are resolved, linters are made ready, a pass is performed, a document is closed,
and so on (`Act`). `take_does` shows that every turn of a connection is a sequence of acts, so that
a property of all courses is shown act by act (`Course.keeps`).

A course is what comes of a list of inputs, each in a world of its own, from a fresh connection. Its
trace lists all that the server did, in order.
-/

namespace LintRelay.Server

/-! ## Acts -/

/-- Nothing has happened in a session but that time has passed. -/
def Session.IsFresh (s : Session) : Prop := s = { Session.empty with now := s.now }

/-- An event that runs a pass is that of the pass. -/
theorem Event.eq_passed {e : Event} {r : PassRecord} (h : e.pass? = some r) : e = .passed r := by
  cases e with
  | passed r' => rw [Option.some.inj h]
  | sent m => cases h
  | closed uri => cases h
  | noted n => cases h

/-- What a session does at once, with the session and the events that it leads to. -/
inductive Act (w : World) (s : Session) : Reaction → Prop where
  /-- The editor introduces itself, before anything else. -/
  | introduce (i : Introduction) (hfresh : s.IsFresh) : Act w s (s.introduce w i).quiet
  /-- The editor is greeted. -/
  | greet : Act w s s.ready
  /-- The text of a document is kept. -/
  | store (d : Document) : Act w s (s.store d)
  /-- The settings of a document are looked up. -/
  | resolve (uri : Uri) : Act w s (s.settingsOf w uri).2
  /-- The linters of an open document are looked up, with the settings that are kept for it. -/
  | prepare {uri : Uri} {file : String} {d : Document} {settings : Settings}
      (hfile : uri.filePath? = some file) (hdocument : s.document? uri = some d)
      (hsettings : s.settings.get? uri.text = some settings) :
      Act w s (s.lintersOf w d.uri settings (workspaceRoot s.folders file)).2
  /-- A pass is performed over an open document, with the settings and linters that are kept for it,
  if it is forced or its version had none, and if its text can be copied where it has to be. -/
  | perform {uri : Uri} {file : String} {d : Document} {settings : Settings}
      {linters : List Linter} {shadow : String} (trigger : Trigger) (forced : Bool)
      (hfile : uri.filePath? = some file) (hdocument : s.document? uri = some d)
      (hsettings : s.settings.get? uri.text = some settings)
      (hlinters : s.linters.get? d.uri.text = some linters)
      (hversion : forced = true ∨ s.isCurrent uri d.version = false)
      (hcopy : w.shadow? settings file d.text = some shadow) :
      Act w s (s.perform w d
        (Session.requestOf d file (workspaceRoot s.folders file) shadow settings trigger) settings
        linters forced)
  /-- A pass over an open document is declined, since it is not forced and the version had one, or
  else since the text has to be copied and cannot be. -/
  | decline {uri : Uri} {file : String} {d : Document} {settings : Settings} (forced : Bool)
      (hfile : uri.filePath? = some file) (hdocument : s.document? uri = some d)
      (hsettings : s.settings.get? uri.text = some settings)
      (hreason : forced = false ∧ s.isCurrent uri d.version = true ∨
        (forced = true ∨ s.isCurrent uri d.version = false) ∧
          w.shadow? settings file d.text = none) :
      Act w s (s.note (.declined d settings forced))
  /-- A pass is set to wait. -/
  | await (uri : Uri) (version : Int) : Act w s (s.await uri version).quiet
  /-- What is kept about documents is dropped, and the settings of the workspace may change. -/
  | flush (shared : Settings) : Act w s (s.flush shared)
  /-- A document is closed. -/
  | close (uri : Uri) : Act w s (s.closed w uri)
  /-- Time passes. -/
  | elapse (milliseconds : Nat) : Act w s (s.tick milliseconds).quiet

/-- What a pass found is published, and its errors are shown. -/
theorem Session.conclude_events (w : World) (s : Session) (d : Document) (outcome : Outcome) :
    (s.conclude w d outcome).events =
      ((s.ledger.reconcile w.visiting outcome).2.filterMap (publication? outcome.document d.version)
        ++ ((errorSummary? outcome.errors).map (Message.display .error)).toList).map .sent := rfl

/-- A pass comes before what is said about it. -/
theorem Session.perform_events (w : World) (s : Session) (d : Document) (request : PassRequest)
    (settings : Settings) (linters : List Linter) (forced : Bool) :
    (s.perform w d request settings linters forced).events =
      .passed
          ⟨d, forced, request, settings, linters, Pass.run linters request (w.runner request)⟩ ::
        (s.conclude w d (Pass.run linters request (w.runner request))).events := rfl

/-- Different URIs have different texts. -/
theorem Uri.text_ne {uri other : Uri} (h : uri ≠ other) : uri.text ≠ other.text :=
  fun htext => h (congrArg Uri.mk htext)

/-- Documents are kept by the text of their URIs. -/
def Session.Keyed (s : Session) : Prop :=
  ∀ ⦃key : String⦄ ⦃d : Document⦄, s.documents.get? key = some d → d.uri.text = key

/-- A document is kept under its own URI. -/
theorem Session.Keyed.uri_eq {s : Session} (h : s.Keyed) {uri : Uri} {d : Document}
    (hd : s.document? uri = some d) : d.uri = uri :=
  congrArg Uri.mk (h hd)

/-- What is known of a pass in the session in which it is run. -/
structure PassRecord.Fits (w : World) (s : Session) (p : PassRecord) (file : String) : Prop where
  /-- The document is a file. -/
  named : p.document.uri.filePath? = some file
  /-- It is open. -/
  document : s.document? p.document.uri = some p.document
  /-- The settings are those that are kept for it. -/
  settings : s.settings.get? p.document.uri.text = some p.settings
  /-- The linters are those that are kept for it. -/
  linters : s.linters.get? p.document.uri.text = some p.linters
  /-- The pass is forced, or the version had none. -/
  version : p.forced = true ∨ s.isCurrent p.document.uri p.document.version = false
  /-- The text is copied, if it has to be. -/
  copy : w.shadow? p.settings file p.document.text = some p.request.shadow
  /-- The request is the one for the document. -/
  request : ∃ trigger, p.request = Session.requestOf p.document file
    (workspaceRoot s.folders file) p.request.shadow p.settings trigger
  /-- The outcome is what the linters find. -/
  outcome : p.outcome = Pass.run p.linters p.request (w.runner p.request)

namespace Act

variable {w : World} {s : Session} {r : Reaction}

/-- A pass that an act runs is one over an open document. -/
theorem fits (h : Act w s r) (hkeyed : s.Keyed) {p : PassRecord} (hp : .passed p ∈ r.events) :
    ∃ file, p.Fits w s file := by
  have hsent : ∀ messages : List Message, Event.passed p ∉ messages.map .sent := by simp
  have hnoted : ∀ n : Note, Event.passed p ∉ [.noted n] := by simp
  cases h with
  | introduce i _ => exact absurd hp List.not_mem_nil
  | greet => exact absurd hp (hsent _)
  | store d => exact absurd hp (hnoted _)
  | resolve uri =>
    unfold Session.settingsOf at hp
    split at hp
    · exact absurd hp List.not_mem_nil
    · exact absurd hp (hsent _)
  | prepare _ _ _ =>
    unfold Session.lintersOf at hp
    split at hp
    · exact absurd hp List.not_mem_nil
    · exact absurd hp (hsent _)
  | @perform uri file d settings linters shadow trigger forced hfile hdocument hsettings hlinters
      hversion hcopy =>
    rw [Session.perform_events, Session.conclude_events] at hp
    rcases List.mem_cons.1 hp with hp | hp
    · obtain rfl := Event.passed.inj hp
      obtain rfl := hkeyed.uri_eq hdocument
      exact ⟨file, hfile, hdocument, hsettings, hlinters, hversion, hcopy, ⟨trigger, rfl⟩, rfl⟩
    · exact absurd hp (hsent _)
  | decline forced _ _ _ _ => exact absurd hp (hnoted _)
  | await uri version => exact absurd hp List.not_mem_nil
  | flush shared => exact absurd hp (hnoted _)
  | close uri =>
    rcases List.mem_append.1 hp with hp | hp
    · exact absurd hp (hsent _)
    · simp at hp
  | elapse milliseconds => exact absurd hp List.not_mem_nil

/-- Every act keeps documents by the text of their URIs. -/
theorem keyed (h : Act w s r) (hkeyed : s.Keyed) : r.session.Keyed := by
  intro key d hd
  cases h with
  | introduce i _ => exact hkeyed hd
  | greet => exact hkeyed hd
  | store d' =>
    have hd : (s.documents.insert d'.uri.text d').get? key = some d := hd
    simp only [Table.get?_insert] at hd
    split at hd
    · next hkey =>
      obtain rfl := Option.some.inj hd
      exact hkey
    · exact hkeyed hd
  | resolve uri =>
    unfold Session.settingsOf at hd
    split at hd
    · exact hkeyed hd
    · exact hkeyed hd
  | prepare _ _ _ =>
    unfold Session.lintersOf at hd
    split at hd
    · exact hkeyed hd
    · exact hkeyed hd
  | perform _ _ _ _ _ _ _ _ => exact hkeyed hd
  | decline _ _ _ _ _ => exact hkeyed hd
  | await uri version => exact hkeyed hd
  | flush shared => exact hkeyed hd
  | close uri =>
    have hd : (s.documents.erase uri.text).get? key = some d := hd
    rw [Table.get?_erase] at hd
    split at hd
    · exact absurd hd.symm (Option.some_ne_none d)
    · exact hkeyed hd
  | elapse milliseconds => exact hkeyed hd

end Act

/-- What a session does, act by act. -/
inductive Does (w : World) : Session → Reaction → Prop where
  /-- Nothing. -/
  | nothing (s : Session) : Does w s s.quiet
  /-- One act. -/
  | act {s : Session} {r : Reaction} : Act w s r → Does w s r
  /-- One thing, and then another. -/
  | andThen {s : Session} {r : Reaction} {next : Session → Reaction} :
      Does w s r → Does w r.session (next r.session) → Does w s (r.andThen next)

/-- What is done after something without events. -/
theorem Does.after {w : World} {s s' : Session} {r : Reaction} (h : Does w s s'.quiet)
    (h' : Does w s' r) : Does w s r := by
  have hboth : Does w s (s'.quiet.andThen fun _ => r) := h.andThen h'
  exact hboth

/-- What is done keeps documents by the text of their URIs. -/
theorem Does.keyed {w : World} {s : Session} {r : Reaction} (h : Does w s r) (hkeyed : s.Keyed) :
    r.session.Keyed := by
  induction h with
  | nothing s => exact hkeyed
  | act h => exact h.keyed hkeyed
  | andThen _ _ ihfirst ihthen => exact ihthen (ihfirst hkeyed)

/-- A property of sessions and of all that was done before is kept by what every act keeps. -/
theorem Does.keeps {w : World} {I : Session → List Event → Prop}
    (hact : ∀ {s : Session} {r : Reaction} {trace : List Event}, Act w s r → I s trace →
      I r.session (trace ++ r.events))
    {s : Session} {r : Reaction} (h : Does w s r) {trace : List Event} (hI : I s trace) :
    I r.session (trace ++ r.events) := by
  induction h generalizing trace with
  | nothing s =>
    change I s (trace ++ [])
    rw [List.append_nil]
    exact hI
  | act h => exact hact h hI
  | andThen _ _ ihfirst ihthen =>
    have h := ihthen (ihfirst hI)
    rw [List.append_assoc] at h
    exact h

/-- Where an element stands in two lists that are joined. -/
theorem append_eq_append_cons {α : Type} {xs ys before after : List α} {a : α}
    (h : xs ++ ys = before ++ a :: after) :
    (∃ rest, xs = before ++ a :: rest) ∨
      ∃ first, before = xs ++ first ∧ ys = first ++ a :: after := by
  rcases List.append_eq_append_iff.1 h with ⟨first, hbefore, hys⟩ | ⟨rest, hxs, hrest⟩
  · exact .inr ⟨first, hbefore, hys⟩
  · cases rest with
    | nil => exact .inr ⟨[], by simpa using hxs.symm, hrest.symm⟩
    | cons b rest =>
      obtain ⟨rfl, -⟩ := List.cons.inj hrest
      exact .inl ⟨rest, hxs⟩

/-- If what acts do in sessions with some property has another, given all that was done before, then
so has every event of what is done. -/
theorem Does.forall_events {w : World} {I : Session → List Event → Prop}
    {Q : List Event → Event → Prop}
    (hact : ∀ {s : Session} {r : Reaction} {trace : List Event}, Act w s r → I s trace →
      I r.session (trace ++ r.events))
    (hevent : ∀ {s : Session} {r : Reaction} {trace : List Event}, Act w s r → I s trace →
      ∀ {before : List Event} {e : Event} {after : List Event},
        r.events = before ++ e :: after → Q (trace ++ before) e)
    {s : Session} {r : Reaction} (h : Does w s r) {trace : List Event} (hI : I s trace)
    {before : List Event} {e : Event} {after : List Event}
    (hsplit : r.events = before ++ e :: after) : Q (trace ++ before) e := by
  induction h generalizing trace before after with
  | nothing s => exact absurd hsplit.symm (by simp [Session.quiet])
  | act h => exact hevent h hI hsplit
  | andThen hfirst _ ihfirst ihthen =>
    rcases append_eq_append_cons hsplit with ⟨rest, hrest⟩ | ⟨first, rfl, hthen⟩
    · exact ihfirst hI hrest
    · rw [← List.append_assoc]
      exact ihthen (hfirst.keeps hact hI) hthen

/-! ## What handlers do -/

namespace Session

variable (w : World) (s : Session)

/-- Looking up settings changes nothing but the settings that are kept, and sends messages at most.
What was looked up is kept. -/
theorem settingsOf_spec (uri : Uri) : ∃ (table : Table Settings) (messages : List Message),
    (s.settingsOf w uri).2 = ⟨{ s with settings := table }, messages.map .sent⟩ ∧
      table.get? uri.text = some (s.settingsOf w uri).1 := by
  unfold settingsOf
  split
  · next settings h => exact ⟨s.settings, [], rfl, h⟩
  · exact ⟨_, _, rfl, by simp⟩

/-- Looking up linters changes nothing but the linters that are kept, and sends messages at most.
What was looked up is kept. -/
theorem lintersOf_spec (uri : Uri) (settings : Settings) (root : String) :
    ∃ (table : Table (List Linter)) (messages : List Message),
      (s.lintersOf w uri settings root).2 = ⟨{ s with linters := table }, messages.map .sent⟩ ∧
        table.get? uri.text = some (s.lintersOf w uri settings root).1 := by
  unfold lintersOf
  split
  · next linters h => exact ⟨s.linters, [], rfl, h⟩
  · exact ⟨_, _, rfl, by simp⟩

/-- A pass over an open document is the preparation of its linters, and then the pass itself unless
the document cannot be copied. -/
theorem pass_does {uri : Uri} {file : String} {d : Document} {settings : Settings}
    (trigger : Trigger) (forced : Bool) (hfile : uri.filePath? = some file)
    (hdocument : s.document? uri = some d) (hsettings : s.settings.get? uri.text = some settings)
    (hversion : forced = true ∨ s.isCurrent uri d.version = false) :
    Does w s (s.pass w d file settings trigger forced) := by
  obtain ⟨table, messages, hprepared, hlinters⟩ :=
    s.lintersOf_spec w d.uri settings (workspaceRoot s.folders file)
  have hprepare : Does w s (s.lintersOf w d.uri settings (workspaceRoot s.folders file)).2 :=
    .act (.prepare hfile hdocument hsettings)
  unfold pass
  dsimp only
  refine hprepare.andThen ?_
  -- The linters are looked up in a session that is otherwise the same.
  rw [hprepared]
  split
  · next hcopy =>
    exact .act (.decline forced hfile hdocument hsettings (.inr ⟨hversion, hcopy⟩))
  · next shadow hcopy =>
    exact .act (.perform trigger forced hfile hdocument hsettings hlinters hversion hcopy)

/-- Analyzing a document is looking up its settings, and then a pass unless its version had one. -/
theorem validate_does (uri : Uri) (trigger : Trigger) (forced : Bool) :
    Does w s (s.validate w uri trigger forced) := by
  unfold validate
  split
  · next file d hfile hd =>
    obtain ⟨table, messages, hresolved, hsettings⟩ := s.settingsOf_spec w uri
    have hresolve : Does w s (s.settingsOf w uri).2 := .act (.resolve uri)
    change Does w s ((s.settingsOf w uri).2.andThen fun s' =>
      if !forced && s'.isCurrent uri d.version then
        s'.note (.declined d (s.settingsOf w uri).1 forced)
      else s'.pass w d file (s.settingsOf w uri).1 trigger forced)
    refine hresolve.andThen ?_
    rw [hresolved]
    dsimp only
    split
    · next hcurrent =>
      exact .act (.decline forced hfile hd hsettings (.inl (by simpa using hcurrent)))
    · next hcurrent =>
      refine pass_does w _ trigger forced hfile hd hsettings ?_
      cases forced with
      | true => exact .inl rfl
      | false => exact .inr (by simpa using hcurrent)
  · exact .nothing s

/-- Analyzing documents is analyzing each. -/
theorem validateEach_does (trigger : Trigger) (forced : Bool) (uris : List Uri) :
    Does w s (validateEach w trigger forced s uris) := by
  induction uris generalizing s with
  | nil => exact .nothing s
  | cons uri rest ih => exact (s.validate_does w uri trigger forced).andThen (ih _)

/-- What goes on with the settings of a document begins with looking them up. -/
theorem resolve_does (uri : Uri) (next : Settings → Session → Reaction)
    (h : ∀ settings s', Does w s' (next settings s')) :
    Does w s ((s.settingsOf w uri).2.andThen (next (s.settingsOf w uri).1)) := by
  have hresolve : Does w s (s.settingsOf w uri).2 := .act (.resolve uri)
  exact hresolve.andThen (h _ _)

/-- A change to a document keeps its text, looks up its settings, and may set a pass to wait. -/
theorem changed_does (uri : Uri) (version : Int) (texts : List String) :
    Does w s (s.changed w uri version texts) := by
  cases texts with
  | nil => exact .nothing s
  | cons text rest =>
    have hstore : Does w s (s.store ⟨uri, text, version⟩) := .act (.store _)
    unfold changed
    refine hstore.andThen (resolve_does w _ uri (fun settings s' =>
      if settings.run = .onType then (s'.await uri version).quiet else s'.quiet) ?_)
    intro settings s'
    split
    · exact .act (.await uri version)
    · exact .nothing s'

/-- Taking over the text of a saved document is keeping it. -/
theorem storeSaved_does (uri : Uri) (text : Option String) :
    Does w s (s.storeSaved uri text) := by
  unfold storeSaved
  split
  · exact .act (.store _)
  · exact .nothing s

/-- What saving a document leads to once its settings are known. -/
def afterSave (uri : Uri) (settings : Settings) : Reaction :=
  match settings.run with
  | .onSave => s.validate w uri .onSave false
  | .onType => s.validate w uri .onSave true
  | .onBuild => s.quiet

/-- Saving a document keeps its text and looks up its settings first. -/
theorem saved_eq (uri : Uri) (text : Option String) :
    s.saved w uri text = (s.storeSaved uri text).andThen fun s' =>
      (s'.settingsOf w uri).2.andThen fun s'' => s''.afterSave w uri (s'.settingsOf w uri).1 := rfl

/-- A saved document is analyzed, or nothing is done. -/
theorem afterSave_eq (uri : Uri) (settings : Settings) :
    (∃ forced, s.afterSave w uri settings = s.validate w uri .onSave forced) ∨
      s.afterSave w uri settings = s.quiet := by
  unfold afterSave
  cases settings.run with
  | onSave => exact .inl ⟨false, rfl⟩
  | onType => exact .inl ⟨true, rfl⟩
  | onBuild => exact .inr rfl

/-- Saving a document keeps its text, looks up its settings, and may analyze it. -/
theorem saved_does (uri : Uri) (text : Option String) : Does w s (s.saved w uri text) := by
  rw [saved_eq]
  refine (s.storeSaved_does w uri text).andThen (resolve_does w _ uri
    (fun settings s' => s'.afterSave w uri settings) ?_)
  intro settings s'
  obtain ⟨forced, hnext⟩ | hnext := s'.afterSave_eq w uri settings
  · rw [hnext]
    exact s'.validate_does w uri .onSave forced
  · rw [hnext]
    exact .nothing s'

/-- Analyzing all documents anew drops what is kept about them first. -/
theorem flush_validateAll_does (shared : Settings) (trigger : Trigger) (forced : Bool) :
    Does w s ((s.flush shared).andThen fun s => s.validateAll w trigger forced) := by
  have hflush : Does w s (s.flush shared) := .act (.flush shared)
  exact hflush.andThen (validateEach_does w _ trigger forced _)

/-- A change to settings analyzes all documents anew. -/
theorem settingsChanged_does (settings : Json) : Does w s (s.settingsChanged w settings) :=
  s.flush_validateAll_does w _ .onSave false

/-- A change to watched files analyzes all documents anew. -/
theorem filesChanged_does (uris : List Uri) : Does w s (s.filesChanged w uris) := by
  unfold filesChanged
  split
  · exact s.flush_validateAll_does w _ .onSave true
  · exact .nothing s

/-- The end of a build looks up the settings of its document, and may analyze all documents. -/
theorem built_does (document : Option Uri) : Does w s (s.built w document) := by
  have hgo : ∀ (settings : Settings) (s' : Session), Does w s'
      (if settings.run = .onBuild then s'.validateAll w .onBuild true else s'.quiet) := by
    intro settings s'
    split
    · exact s'.validateEach_does w .onBuild true _
    · exact .nothing s'
  cases document with
  | some uri => exact resolve_does w s uri _ hgo
  | none => exact (Does.nothing s).after (hgo s.shared s)

/-- All that a notice leads to is a sequence of acts. -/
theorem handle_does (notice : Notice) : Does w s (s.handle w notice) := by
  cases notice with
  | ready => exact .act .greet
  | opened uri text version =>
    have hstore : Does w s (s.store ⟨uri, text, version⟩) := .act (.store _)
    unfold handle opened
    exact hstore.andThen (validate_does w _ uri .onSave false)
  | changed uri version texts => exact s.changed_does w uri version texts
  | saved uri text => exact s.saved_does w uri text
  | closed uri => exact .act (.close uri)
  | settingsChanged settings => exact s.settingsChanged_does w settings
  | filesChanged uris => exact s.filesChanged_does w uris
  | built document => exact s.built_does w document

/-- A pass that has waited is a pass or nothing. -/
theorem wake_does (p : Waiting) : Does w s (s.wake w p) := by
  unfold wake
  split
  · split
    · exact s.validate_does w p.uri .onType false
    · exact .nothing s
  · exact .nothing s

/-- Passes that have waited are run one after the other. -/
theorem wakeEach_does (waiting : List Waiting) : Does w s (wakeEach w s waiting) := by
  induction waiting generalizing s with
  | nil => exact .nothing s
  | cons p rest ih => exact (s.wake_does w p).andThen (ih _)

/-- As time passes, the passes that are due wait no longer and are run. -/
theorem advance_does (milliseconds : Nat) : Does w s (s.advance w milliseconds) := by
  have helapse : Does w s (s.tick milliseconds).quiet := .act (.elapse milliseconds)
  exact helapse.after (wakeEach_does w _ _)

/-- A command that is carried out analyzes documents. -/
theorem command_does {name : String} {arguments : List Json} {r : Reaction}
    (h : s.command w name arguments = .ok r) : Does w s r := by
  unfold command at h
  split at h
  · split at h
    · next uri _ =>
      obtain rfl := Except.ok.inj h
      exact s.validate_does w uri .onSave true
    · simp at h
  · split at h
    · obtain rfl := Except.ok.inj h
      exact s.validateEach_does w .onSave true _
    · simp at h

end Session

/-! ## Turns -/

/-- What comes in. -/
inductive Input where
  /-- A request. -/
  | request (method : String) (params : Option Json)
  /-- A notice. -/
  | notice (method : String) (params : Option Json)
  /-- Time passes. -/
  | elapse (milliseconds : Nat)

namespace Input

/-- The editor introduces itself, with a root of the workspace and settings. -/
def introduces (root : Uri) (settings : Json) : Input :=
  .request "initialize" (some (.object
    [("capabilities", .object []), ("initializationOptions", settings),
      ("rootUri", .string root.text)]))

/-- A document is opened. -/
def opens (d : Document) : Input :=
  .notice "textDocument/didOpen" (some (.object [("textDocument", .object
    [("languageId", .string "c"), ("text", .string d.text), ("uri", .string d.uri.text),
      ("version", .integer d.version)])]))

/-- A document is changed. -/
def changes (d : Document) : Input :=
  .notice "textDocument/didChange" (some (.object
    [("contentChanges", .array [.object [("text", .string d.text)]]),
      ("textDocument", .object [("uri", .string d.uri.text), ("version", .integer d.version)])]))

/-- A document is saved. -/
def saves (uri : Uri) : Input :=
  .notice "textDocument/didSave" (some (.object [("textDocument", .object
    [("uri", .string uri.text)])]))

/-- A document is closed. -/
def closes (uri : Uri) : Input :=
  .notice "textDocument/didClose" (some (.object [("textDocument", .object
    [("uri", .string uri.text)])]))

end Input

/-- A text can be copied for a file: where copies are made, a file with the text can be, under a
hidden name with new letters and the extension of the file. -/
def Scratch.CanCopy (s : Scratch) (file text : String) : Prop :=
  s.accepts (Path.join s.directory (".flylint-" ++ s.letters file ++
    ((Path.extension? file).map ("." ++ ·)).getD "")) text = true

instance (s : Scratch) (file text : String) : Decidable (s.CanCopy file text) :=
  inferInstanceAs (Decidable (_ = true))

/-- There is a copy if one can be made. -/
theorem Scratch.isSome_copy? {s : Scratch} {file text : String} :
    (s.copy? file text).isSome = true ↔ s.CanCopy file text := by
  unfold copy? nameFor CanCopy
  cases Path.extension? file <;> simp

/-- Copies in `/tmp`, as long as the file system takes their names. -/
def Scratch.temporary : Scratch where
  directory := "/tmp"
  rooted := rfl
  letters _ := "k3Xw9Z"
  accepts path _ :=
    path.utf8ByteSize ≤ "/tmp/".utf8ByteSize + nameLimit && !path.toList.contains '\x00'

/-- A world with an empty workspace, in which no analyzer is installed and the editor says nothing.
-/
def World.bare : World where
  host :=
    { tree := (Tree.empty.add "/ws" .directory).add "/tmp" .directory
      directory := "/ws"
      path := none
      extraDirectory := none
      environment := ∅ }
  editor := ⟨fun _ => none⟩
  scratch := .temporary
  visiting := .ascending

/-- This world with a program that is found in `/bin`. -/
def World.installing (name : String) (program : Program) : World :=
  { bare with
    host :=
      { bare.host with
        tree := bare.host.tree.add ("/bin/" ++ name) (.file .bytes (some program))
        path := some "/bin" } }

/-- Takes what comes in. -/
def Connection.take (w : World) (c : Connection) : Input → Turn
  | .request method params => c.request w method params
  | .notice method params => c.notify w method params
  | .elapse milliseconds => c.advance w milliseconds

/-- What a turn does to the session. -/
def Turn.reaction (t : Turn) : Reaction := ⟨t.connection.session, t.events⟩

namespace Connection

variable (w : World) (c : Connection)

/-- Before the editor has introduced itself, nothing has happened in the session. -/
def Sound (c : Connection) : Prop := c.phase = .fresh → c.session.IsFresh

/-- An introduction is the only thing that a request to begin can do. -/
theorem initial_does (hsound : c.Sound) (params : Option Json) :
    Does w c.session (c.initial w params).reaction := by
  unfold initial
  split
  · exact .nothing c.session
  · next hphase =>
    split
    · exact .nothing c.session
    · exact .act (.introduce _ (hsound hphase))
  · exact .nothing c.session

/-- A request to stop leaves the session alone. -/
theorem stop_does (params : Option Json) : Does w c.session (c.stop params).reaction := by
  unfold stop
  split
  · exact .nothing c.session
  · exact .nothing c.session

/-- Parameters that cannot be read lead to nothing. -/
theorem withParams_does (form : Form) (params : Option Json) {go : Json → Turn}
    (h : ∀ json, Does w c.session (go json).reaction) :
    Does w c.session (c.withParams form params go).reaction := by
  unfold withParams
  split
  · exact .nothing c.session
  · split
    · exact .nothing c.session
    · exact h _

/-- A request while the server is running is a command or refused. -/
theorem runningRequest_does (method : String) (params : Option Json) :
    Does w c.session (c.runningRequest w method params).reaction := by
  unfold runningRequest
  split
  · refine c.withParams_does w _ params fun json => ?_
    split
    · next reaction hreaction => exact c.session.command_does w hreaction
    · exact .nothing c.session
  · split
    · exact c.withParams_does w _ params fun _ => .nothing c.session
    · exact .nothing c.session

/-- All that a request leads to is a sequence of acts. -/
theorem request_does (hsound : c.Sound) (method : String) (params : Option Json) :
    Does w c.session (c.request w method params).reaction := by
  unfold request
  split
  · exact .nothing c.session
  split
  · exact c.initial_does w hsound params
  split
  · exact c.stop_does w params
  split
  · exact .nothing c.session
  split
  · exact .nothing c.session
  split
  · split
    · exact c.runningRequest_does w method params
    · exact .nothing c.session
  split
  · exact .nothing c.session
  · exact .nothing c.session

/-- All that a notice leads to is a sequence of acts. -/
theorem notify_does (method : String) (params : Option Json) :
    Does w c.session (c.notify w method params).reaction := by
  unfold notify
  split
  · exact .nothing c.session
  · split
    · exact .nothing c.session
    split
    · exact .nothing c.session
    split
    · next notice _ => exact c.session.handle_does w notice
    · exact .nothing c.session
  · split
    · exact .nothing c.session
    · exact .nothing c.session

/-- As time passes on a connection that has not ended, it passes for the session. -/
theorem advance_does (milliseconds : Nat) :
    Does w c.session (c.advance w milliseconds).reaction := by
  unfold advance
  split
  · exact .nothing c.session
  · exact c.session.advance_does w milliseconds

/-- All that an input leads to is a sequence of acts. -/
theorem take_does (hsound : c.Sound) (input : Input) :
    Does w c.session (c.take w input).reaction := by
  cases input with
  | request method params => exact c.request_does w hsound method params
  | notice method params => exact c.notify_does w method params
  | elapse milliseconds => exact c.advance_does w milliseconds

/-! ### Before the introduction -/

variable {w c}

/-- Once the editor has introduced itself, nothing is asked of the session. -/
theorem sound_of_ne (h : c.phase ≠ .fresh) : c.Sound := fun hphase => absurd hphase h

/-- Requests that are taken only while the server is running leave it running. -/
theorem phase_runningRequest (method : String) (params : Option Json) :
    (c.runningRequest w method params).connection.phase = c.phase := by
  have hparams : ∀ {form : Form} {go : Json → Turn},
      (∀ json, (go json).connection.phase = c.phase) →
        (c.withParams form params go).connection.phase = c.phase := by
    intro form go hgo
    unfold withParams
    split
    · rfl
    · split
      · rfl
      · exact hgo _
  unfold runningRequest
  split
  · refine hparams fun json => ?_
    split
    · rfl
    · rfl
  · split
    · exact hparams fun _ => rfl
    · rfl

/-- A request leaves a connection sound. -/
theorem request_sound (hsound : c.Sound) (method : String) (params : Option Json) :
    (c.request w method params).connection.Sound := by
  unfold request
  split
  · exact hsound
  split
  · unfold initial
    split
    · exact hsound
    · split
      · exact hsound
      · exact sound_of_ne (by simp)
    · exact hsound
  split
  · unfold stop
    split
    · exact sound_of_ne (by simp [reply])
    · exact hsound
  split
  · exact sound_of_ne (by simp [leave])
  split
  · exact hsound
  split
  · split
    · next hrunning =>
      exact sound_of_ne (by rw [phase_runningRequest, hrunning]; simp)
    · exact hsound
  split
  · exact hsound
  · exact hsound

/-- A notice leaves a connection sound. -/
theorem notify_sound (hsound : c.Sound) (method : String) (params : Option Json) :
    (c.notify w method params).connection.Sound := by
  unfold notify
  split
  · exact hsound
  · next hrunning =>
    split
    · exact sound_of_ne (by simp [leave])
    split
    · exact sound_of_ne (by simp [reply])
    split
    · exact sound_of_ne (by simp [proceed, hrunning])
    · exact hsound
  · split
    · exact sound_of_ne (by simp [leave])
    · exact hsound

/-- Time that passes in a fresh session leaves it fresh, since nothing waits in it. -/
theorem advance_fresh {s : Session} (h : s.IsFresh) (milliseconds : Nat) :
    (s.advance w milliseconds).session.IsFresh := by
  unfold Session.IsFresh at h ⊢
  rw [h]
  rfl

/-- What comes in leaves a connection sound. -/
theorem take_sound (hsound : c.Sound) (input : Input) : (c.take w input).connection.Sound := by
  cases input with
  | request method params => exact request_sound hsound method params
  | notice method params => exact notify_sound hsound method params
  | elapse milliseconds =>
    change (c.advance w milliseconds).connection.Sound
    unfold advance
    split
    · exact hsound
    · exact fun hphase => advance_fresh (hsound hphase) milliseconds

end Connection

/-! ## Courses -/

/-- A connection and all that was done on it, in order. -/
structure Course where
  /-- The connection. -/
  connection : Connection
  /-- The events, in order. -/
  trace : List Event

namespace Course

/-- The course after one more input. -/
def next (course : Course) (input : World × Input) : Course :=
  let turn := course.connection.take input.1 input.2
  ⟨turn.connection, course.trace ++ turn.events⟩

/-- The course that inputs lead to, each in its world. -/
def of (inputs : List (World × Input)) : Course := inputs.foldl next ⟨.fresh, []⟩

/-- The course that more inputs lead to goes on from the one that the first lead to. -/
theorem of_append (first more : List (World × Input)) :
    of (first ++ more) = more.foldl next (of first) :=
  List.foldl_append

/-- After some events of a course, an event is done in a world: that of the input in whose turn the
event comes. -/
def DoneIn (inputs : List (World × Input)) (w : World) (before : List Event) (e : Event) : Prop :=
  ∃ pre input post, inputs = pre ++ (w, input) :: post ∧ ∃ first rest,
    before = (of pre).trace ++ first ∧
    ((of pre).connection.take w input).events = first ++ e :: rest

/-- What is done is done in the world of some input. -/
theorem DoneIn.exists_mem {inputs : List (World × Input)} {w : World} {before : List Event}
    {e : Event} (h : DoneIn inputs w before e) : ∃ input ∈ inputs, input.1 = w := by
  obtain ⟨pre, input, post, rfl, -⟩ := h
  exact ⟨(w, input), by simp, rfl⟩

/-- Every event of a course is done in some world. -/
theorem exists_doneIn {inputs : List (World × Input)} {before : List Event} {e : Event}
    {after : List Event} (hsplit : (of inputs).trace = before ++ e :: after) :
    ∃ w, DoneIn inputs w before e := by
  induction inputs using List.reverseRecOn generalizing after with
  | nil => exact absurd hsplit.symm (by simp [of])
  | append_singleton inputs input ih =>
    rw [of_append] at hsplit
    rcases append_eq_append_cons hsplit with ⟨rest, hrest⟩ | ⟨first, hbefore, hturn⟩
    · obtain ⟨w, pre, earlier, post, rfl, hevents⟩ := ih hrest
      exact ⟨w, pre, earlier, post ++ [input], by simp, hevents⟩
    · exact ⟨input.1, inputs, input.2, [], rfl, first, after, hbefore, hturn⟩

/-- Every course leaves its connection sound, and its documents kept by the text of their URIs. -/
theorem sound_and_keyed (inputs : List (World × Input)) :
    (of inputs).connection.Sound ∧ (of inputs).connection.session.Keyed := by
  have hrun : ∀ course : Course, course.connection.Sound ∧ course.connection.session.Keyed →
      (inputs.foldl next course).connection.Sound ∧
        (inputs.foldl next course).connection.session.Keyed := by
    induction inputs with
    | nil => exact fun _ h => h
    | cons input rest ih =>
      rintro course ⟨hsound, hkeyed⟩
      exact ih _ ⟨Connection.take_sound hsound input.2,
        (course.connection.take_does input.1 hsound input.2).keyed hkeyed⟩
  exact hrun _ ⟨fun _ => rfl, fun _ _ h => by simp [Connection.fresh, Session.empty] at h⟩

/-- Every course leaves its connection sound. -/
theorem sound (inputs : List (World × Input)) : (of inputs).connection.Sound :=
  (sound_and_keyed inputs).1

/-- Every course keeps documents by the text of their URIs. -/
theorem keyed (inputs : List (World × Input)) : (of inputs).connection.session.Keyed :=
  (sound_and_keyed inputs).2

section Keeps

variable {W : World → Prop} {I : Session → List Event → Prop}

/-- A property that holds of a course, and that every act in a world of some kind keeps, holds of
all courses that go on from there through such worlds. -/
theorem keeps_append
    (hact : ∀ {w : World} {s : Session} {r : Reaction} {trace : List Event}, W w → s.Keyed →
      Act w s r → I s trace → I r.session (trace ++ r.events))
    {first : List (World × Input)} (hfirst : I (of first).connection.session (of first).trace)
    {more : List (World × Input)} (hworlds : ∀ input ∈ more, W input.1) :
    I (of (first ++ more)).connection.session (of (first ++ more)).trace := by
  induction more generalizing first with
  | nil =>
    rw [List.append_nil]
    exact hfirst
  | cons input rest ih =>
    have hinput : W input.1 := hworlds input List.mem_cons_self
    have hdoes := (of first).connection.take_does input.1 (sound first) input.2
    have hnext : I (of (first ++ [input])).connection.session (of (first ++ [input])).trace := by
      rw [of_append]
      exact (hdoes.keeps (I := fun s trace => s.Keyed ∧ I s trace)
        (fun hr h => ⟨hr.keyed h.1, hact hinput h.1 hr h.2⟩) ⟨keyed first, hfirst⟩).2
    rw [List.append_cons]
    exact ih hnext fun other hother => hworlds other (List.mem_cons_of_mem _ hother)

/-- A property that holds at first, and that every act in a world of some kind keeps, holds of every
course through such worlds. -/
theorem keeps (hinitial : I .empty [])
    (hact : ∀ {w : World} {s : Session} {r : Reaction} {trace : List Event}, W w → s.Keyed →
      Act w s r → I s trace → I r.session (trace ++ r.events))
    {inputs : List (World × Input)} (hworlds : ∀ input ∈ inputs, W input.1) :
    I (of inputs).connection.session (of inputs).trace := by
  have hstart : I (of []).connection.session (of []).trace := hinitial
  exact keeps_append hact hstart hworlds

/-- If what acts do in sessions with some property has another, given all that was done before, then
so has every event of a course, in the world in which it is done. -/
theorem forall_done {Q : World → List Event → Event → Prop} (hinitial : I .empty [])
    (hact : ∀ {w : World} {s : Session} {r : Reaction} {trace : List Event}, W w → s.Keyed →
      Act w s r → I s trace → I r.session (trace ++ r.events))
    (hevent : ∀ {w : World} {s : Session} {r : Reaction} {trace : List Event}, W w → s.Keyed →
      Act w s r → I s trace → ∀ {before : List Event} {e : Event} {after : List Event},
        r.events = before ++ e :: after → Q w (trace ++ before) e)
    {inputs : List (World × Input)} (hworlds : ∀ input ∈ inputs, W input.1) {w : World}
    {before : List Event} {e : Event} (hdone : DoneIn inputs w before e) : Q w before e := by
  obtain ⟨pre, input, post, rfl, first, rest, rfl, hturn⟩ := hdone
  have hw : W w := hworlds (w, input) (by simp)
  -- The turn begins where the inputs before it have led.
  have hpre : I (of pre).connection.session (of pre).trace :=
    keeps hinitial hact fun other hother => hworlds other (List.mem_append_left _ hother)
  exact ((of pre).connection.take_does w (sound pre) input).forall_events
    (I := fun s trace => s.Keyed ∧ I s trace) (Q := Q w)
    (fun hr h => ⟨hr.keyed h.1, hact hw h.1 hr h.2⟩) (fun hr h => hevent hw h.1 hr h.2)
    ⟨keyed pre, hpre⟩ hturn

end Keeps

/-- A pass of a course finds what its linters find on its request, in the world of some input. -/
theorem outcome_eq_run {inputs : List (World × Input)} {p : PassRecord}
    (hp : .passed p ∈ (of inputs).trace) :
    ∃ input ∈ inputs, p.outcome = Pass.run p.linters p.request (input.1.runner p.request) := by
  obtain ⟨before, after, hsplit⟩ := List.append_of_mem hp
  obtain ⟨w, hdone⟩ := exists_doneIn hsplit
  obtain ⟨input, hinput, rfl⟩ := hdone.exists_mem
  refine ⟨input, hinput, forall_done (W := fun _ => True) (I := fun _ _ => True)
    (Q := fun w _ e => ∀ p, e = .passed p →
      p.outcome = Pass.run p.linters p.request (w.runner p.request))
    trivial (fun _ _ _ _ => trivial) ?_ (fun _ _ => trivial) hdone p rfl⟩
  rintro w s r trace - hkeyed hact - before e after hevents p rfl
  obtain ⟨file, hfits⟩ := hact.fits hkeyed (p := p) (by rw [hevents]; simp)
  exact hfits.outcome

end Course

/-- What the linters of a pass find in a world, before it is sorted. -/
def PassRecord.foundIn (w : World) (r : PassRecord) : List (String × Finding) :=
  Pass.found r.linters r.request (w.runner r.request)

/-- A pass reports what it finds alone. -/
theorem PassRecord.mem_files_of_foundIn {w : World} {r : PassRecord} {file : String} {x : Finding}
    (houtcome : r.outcome = Pass.run r.linters r.request (w.runner r.request))
    (h : r.foundIn w = [(file, x)]) : x ∈ r.outcome.files.getD file [] := by
  rw [houtcome]
  exact Pass.mem_files_of_found h

end LintRelay.Server
