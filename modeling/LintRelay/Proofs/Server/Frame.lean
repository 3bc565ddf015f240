import LintRelay.Proofs.Server.Course

/-!
# What leaves a document alone

Most of what a server does is about one document, and leaves the others alone: their texts, settings
and versions stay as they are, none of them is analyzed, and no pass over them is set to wait. For
one document this is a relation between a session and what comes of it (`Spares`), which goes
through from act to act.

`take_spares` shows it of every input that does not concern the document (`Input.concerns`). Only
the passage of time is left out, since it may be what a pass over the document waits for.
-/

namespace LintRelay.Server

/-! ## Passes over one document -/

/-- The passes over a document, in order. -/
def passesOver (trace : List Event) (uri : Uri) : List PassRecord :=
  (trace.filterMap Event.pass?).filter (·.document.uri = uri)

/-- Passes are added at the end. -/
theorem passesOver_append (trace events : List Event) (uri : Uri) :
    passesOver (trace ++ events) uri = passesOver trace uri ++ passesOver events uri := by
  unfold passesOver
  rw [List.filterMap_append, List.filter_append]

/-- Messages run no passes. -/
theorem filterMap_pass?_sent (messages : List Message) :
    (messages.map Event.sent).filterMap Event.pass? = [] := by
  rw [List.filterMap_map]
  exact List.filterMap_eq_nil_iff.2 fun _ _ => rfl

/-- Messages run no passes over a document. -/
theorem passesOver_sent (messages : List Message) (uri : Uri) :
    passesOver (messages.map .sent) uri = [] := by
  unfold passesOver
  rw [filterMap_pass?_sent, List.filter_nil]

/-! ## The relation -/

/-- A reaction leaves a document alone: it changes nothing that is kept about it but its linters,
runs no pass over it, lets none wait, and takes no time. -/
structure Spares (uri : Uri) (s : Session) (r : Reaction) : Prop where
  /-- Its text is the same. -/
  document : r.session.document? uri = s.document? uri
  /-- So are its settings. -/
  settings : r.session.settings.get? uri.text = s.settings.get? uri.text
  /-- So is the version of its latest pass. -/
  version : r.session.versions.get? uri.text = s.versions.get? uri.text
  /-- What is set to wait are passes over other documents. -/
  waiting : ∃ more, r.session.waiting = s.waiting ++ more ∧ ∀ p ∈ more, p.uri ≠ uri
  /-- No time passes. -/
  now : r.session.now = s.now
  /-- No pass is run over it. -/
  passes : passesOver r.events uri = []

namespace Spares

variable {w : World} {uri other : Uri} {s : Session}

/-- What touches neither texts, settings and versions nor what waits leaves every document alone. -/
theorem aside {r : Reaction} (hdocuments : r.session.documents = s.documents)
    (hsettings : r.session.settings = s.settings) (hversions : r.session.versions = s.versions)
    (hwaiting : r.session.waiting = s.waiting) (hnow : r.session.now = s.now)
    (hpasses : passesOver r.events uri = []) : Spares uri s r where
  document := by
    unfold Session.document?
    rw [hdocuments]
  settings := by rw [hsettings]
  version := by rw [hversions]
  waiting := ⟨[], by rw [hwaiting, List.append_nil], fun _ hp => absurd hp List.not_mem_nil⟩
  now := hnow
  passes := hpasses

/-- Nothing leaves a document alone. -/
theorem quiet : Spares uri s s.quiet := aside rfl rfl rfl rfl rfl rfl

/-- A note leaves a document alone. -/
theorem note (n : Note) : Spares uri s (s.note n) := aside rfl rfl rfl rfl rfl rfl

/-- Two things that leave a document alone do so one after the other. -/
theorem andThen {r : Reaction} {next : Session → Reaction} (h : Spares uri s r)
    (h' : Spares uri r.session (next r.session)) : Spares uri s (r.andThen next) where
  document := h'.document.trans h.document
  settings := h'.settings.trans h.settings
  version := h'.version.trans h.version
  waiting := by
    obtain ⟨more, hmore, hother⟩ := h.waiting
    obtain ⟨more', hmore', hother'⟩ := h'.waiting
    refine ⟨more ++ more', ?_, fun p hp => ?_⟩
    · calc (next r.session).session.waiting = r.session.waiting ++ more' := hmore'
        _ = s.waiting ++ (more ++ more') := by rw [hmore, List.append_assoc]
    · rcases List.mem_append.1 hp with hp | hp
      · exact hother p hp
      · exact hother' p hp
  now := h'.now.trans h.now
  passes := by
    change passesOver (r.events ++ (next r.session).events) uri = []
    rw [passesOver_append, h.passes, h'.passes, List.append_nil]

/-! ### Acts -/

/-- Keeping the text of another document. -/
theorem store {d : Document} (hother : d.uri ≠ uri) : Spares uri s (s.store d) where
  document := by
    change (s.documents.insert d.uri.text d).get? uri.text = s.documents.get? uri.text
    simp [Uri.text_ne hother]
  settings := rfl
  version := rfl
  waiting := ⟨[], by rw [List.append_nil]; rfl, fun _ hp => absurd hp List.not_mem_nil⟩
  now := rfl
  passes := rfl

/-- Looking up the settings of another document. -/
theorem resolve (hother : other ≠ uri) : Spares uri s (s.settingsOf w other).2 := by
  unfold Session.settingsOf
  split
  · exact quiet
  · dsimp only [Session.send]
    exact ⟨rfl, by simp [Uri.text_ne hother], rfl, ⟨[], by rw [List.append_nil], by simp⟩, rfl,
      passesOver_sent _ _⟩

/-- Going on with the settings of another document, whatever they are. -/
theorem resolve_andThen (hother : other ≠ uri) (next : Settings → Session → Reaction)
    (h : ∀ settings, Spares uri (s.settingsOf w other).2.session
      (next settings (s.settingsOf w other).2.session)) :
    Spares uri s ((s.settingsOf w other).2.andThen (next (s.settingsOf w other).1)) :=
  (resolve hother).andThen (h _)

/-- Looking up linters. -/
theorem prepare (settings : Settings) (root : String) :
    Spares uri s (s.lintersOf w other settings root).2 := by
  obtain ⟨table, messages, hprepared, -⟩ := s.lintersOf_spec w other settings root
  rw [hprepared]
  exact aside rfl rfl rfl rfl rfl (passesOver_sent _ _)

/-- A pass over another document. -/
theorem perform {d : Document} (hother : d.uri ≠ uri) (request : PassRequest) (settings : Settings)
    (linters : List Linter) (forced : Bool) :
    Spares uri s (s.perform w d request settings linters forced) where
  document := rfl
  settings := rfl
  version := by
    change (s.versions.insert d.uri.text d.version).get? uri.text = _
    simp [Uri.text_ne hother]
  waiting := ⟨[], by rw [List.append_nil]; rfl, fun _ hp => absurd hp List.not_mem_nil⟩
  now := rfl
  passes := by
    rw [Session.perform_events, Session.conclude_events, ← List.singleton_append, passesOver_append,
      passesOver_sent, List.append_nil]
    simp [passesOver, Event.pass?, hother]

/-- Letting a pass over another document wait. -/
theorem await (hother : other ≠ uri) (version : Int) :
    Spares uri s (s.await other version).quiet where
  document := rfl
  settings := rfl
  version := rfl
  waiting := ⟨[⟨s.now + quietPeriod, other, version⟩], rfl, fun p hp => by
    obtain rfl := List.mem_singleton.1 hp
    exact hother⟩
  now := rfl
  passes := rfl

/-- Closing another document. -/
theorem close (hother : other ≠ uri) : Spares uri s (s.closed w other) where
  document := by
    change (s.documents.erase other.text).get? uri.text = s.documents.get? uri.text
    simp [Uri.text_ne hother]
  settings := by
    change (s.settings.erase other.text).get? uri.text = _
    simp [Uri.text_ne hother]
  version := by
    change (s.versions.erase other.text).get? uri.text = _
    simp [Uri.text_ne hother]
  waiting := ⟨[], by rw [List.append_nil]; rfl, fun _ hp => absurd hp List.not_mem_nil⟩
  now := rfl
  passes := by
    unfold Session.closed Reaction.andThen Session.send
    dsimp only
    rw [passesOver_append, passesOver_sent]
    rfl

/-! ### Handlers -/

/-- A pass over another document, or none since its text cannot be copied. -/
theorem pass {d : Document} (hother : d.uri ≠ uri) (file : String) (settings : Settings)
    (trigger : Trigger) (forced : Bool) :
    Spares uri s (s.pass w d file settings trigger forced) := by
  unfold Session.pass
  refine (prepare settings (workspaceRoot s.folders file)).andThen ?_
  split
  · exact note _
  · exact perform hother _ _ _ _

/-- Analyzing another document. -/
theorem validate (hother : other ≠ uri) (hkeyed : s.Keyed) (trigger : Trigger) (forced : Bool) :
    Spares uri s (s.validate w other trigger forced) := by
  unfold Session.validate
  split
  · next file d hfile hd =>
    have hd : d.uri ≠ uri := by
      rw [hkeyed.uri_eq hd]
      exact hother
    refine resolve_andThen hother (fun settings s' =>
      if !forced && s'.isCurrent other d.version then s'.note (.declined d settings forced)
      else s'.pass w d file settings trigger forced) fun settings => ?_
    split
    · exact note _
    · exact pass hd file settings trigger forced
  · exact quiet

/-- Opening another document. -/
theorem opened {d : Document} (hother : d.uri ≠ uri) (hkeyed : s.Keyed) :
    Spares uri s (s.opened w d) := by
  have hstore : Act w s (s.store d) := .store d
  exact (store hother).andThen (validate hother (hstore.keyed hkeyed) .onSave false)

/-- Changing another document. -/
theorem changed (hother : other ≠ uri) (version : Int) (texts : List String) :
    Spares uri s (s.changed w other version texts) := by
  cases texts with
  | nil => exact quiet
  | cons text rest =>
    unfold Session.changed
    refine andThen (store hother) (resolve_andThen hother (fun settings s' =>
      if settings.run = .onType then (s'.await other version).quiet else s'.quiet)
        fun settings => ?_)
    split
    · exact await hother version
    · exact quiet

/-- Saving another document. -/
theorem saved (hother : other ≠ uri) (hkeyed : s.Keyed) (text : Option String) :
    Spares uri s (s.saved w other text) := by
  have hstored : Spares uri s (s.storeSaved other text) := by
    unfold Session.storeSaved
    split
    · next text d hd =>
      refine store ?_
      change d.uri ≠ uri
      rw [hkeyed.uri_eq hd]
      exact hother
    · exact quiet
  have hkeyed : (s.storeSaved other text).session.Keyed :=
    (s.storeSaved_does w other text).keyed hkeyed
  rw [Session.saved_eq]
  refine hstored.andThen (resolve_andThen hother
    (fun settings s' => s'.afterSave w other settings) fun settings => ?_)
  have hresolve : Act w _ ((s.storeSaved other text).session.settingsOf w other).2 := .resolve other
  obtain ⟨forced, hnext⟩ | hnext := Session.afterSave_eq w _ other settings
  · rw [hnext]
    exact validate hother (hresolve.keyed hkeyed) .onSave forced
  · rw [hnext]
    exact quiet

end Spares

/-! ## Inputs -/

/-- Whether a notice may have a document kept, analyzed or forgotten. -/
def Notice.concerns (uri : Uri) : Notice → Bool
  | .ready => false
  | .opened other _ _ | .changed other _ _ | .saved other _ | .closed other => other = uri
  | .settingsChanged _ | .built _ => true
  | .filesChanged uris => uris.any isWatched

/-- Whether a command may have a document analyzed. -/
def commandConcerns (uri : Uri) (params : Json) : Bool :=
  textAt? params "command" = some Session.analyzeWorkspace ||
    (itemsAt params "arguments").head?.bind uri? = some uri

/-- Whether what comes in is about a document, or about all, or about the end of the server. -/
def Input.concerns (uri : Uri) : Input → Bool
  | .request method params => method = "shutdown" || method = "exit" ||
      (method = "workspace/executeCommand" &&
        (params.bind fun params => (Form.commandRequest false params).toOption).any
          (commandConcerns uri))
  | .notice method params => method = "shutdown" || method = "exit" ||
      (Notice.read? method params).any (Notice.concerns uri)
  | .elapse _ => false

variable {w : World} {uri : Uri}

/-- A notice that does not concern a document leaves it alone. -/
theorem Session.handle_spares {s : Session} (hkeyed : s.Keyed) {notice : Notice}
    (h : notice.concerns uri = false) : Spares uri s (s.handle w notice) := by
  cases notice with
  | ready => exact .aside rfl rfl rfl rfl rfl (passesOver_sent _ _)
  | opened other text version =>
    exact .opened (d := ⟨other, text, version⟩) (of_decide_eq_false h) hkeyed
  | changed other version texts => exact .changed (of_decide_eq_false h) version texts
  | saved other text => exact .saved (of_decide_eq_false h) hkeyed text
  | closed other => exact .close (of_decide_eq_false h)
  | settingsChanged settings => cases h
  | filesChanged uris =>
    have hwatched : ¬ uris.any isWatched = true := by
      rw [Bool.not_eq_true]
      exact h
    change Spares uri s (s.filesChanged w uris)
    unfold filesChanged
    rw [if_neg hwatched]
    exact .quiet
  | built document => cases h

/-- A command that does not concern a document leaves it alone. -/
theorem Session.command_spares {s : Session} (hkeyed : s.Keyed) {params : Json}
    (h : commandConcerns uri params = false) {r : Reaction}
    (hr : s.command w ((textAt? params "command").getD "") (itemsAt params "arguments") = .ok r) :
    Spares uri s r := by
  obtain ⟨hname, hargument⟩ : textAt? params "command" ≠ some analyzeWorkspace ∧
      (itemsAt params "arguments").head?.bind uri? ≠ some uri := by
    simpa [commandConcerns] using h
  unfold command at hr
  split at hr
  · split at hr
    · next other hother =>
      obtain rfl := Except.ok.inj hr
      refine .validate (fun heq => hargument ?_) hkeyed .onSave true
      rw [hother, heq]
    · cases hr
  · split at hr
    · next hworkspace =>
      refine absurd ?_ hname
      cases hcommand : textAt? params "command" with
      | none =>
        rw [hcommand] at hworkspace
        exact absurd hworkspace (by decide)
      | some name =>
        rw [hcommand] at hworkspace
        exact congrArg some hworkspace
    · cases hr

namespace Connection

variable {c : Connection}

/-- A request for a command that does not concern a document leaves it alone. -/
theorem command_spares (hkeyed : c.session.Keyed) {params : Option Json}
    (h : (params.bind fun params => (Form.commandRequest false params).toOption).any
      (commandConcerns uri) = false) : Spares uri c.session (c.command w params).reaction := by
  unfold command withParams
  cases params with
  | none => exact .quiet
  | some json =>
    dsimp only
    rw [Option.bind_some] at h
    cases hform : Form.commandRequest false json with
    | error e => exact .quiet
    | ok params =>
      rw [hform] at h
      dsimp only
      split
      · next r hr => exact Session.command_spares hkeyed h hr
      · exact .quiet

/-- A request that does not concern a document leaves it alone, and the server running. -/
theorem request_spares (hrunning : c.phase = .running) (hkeyed : c.session.Keyed) {method : String}
    {params : Option Json} (h : (Input.request method params).concerns uri = false) :
    (c.request w method params).connection.phase = .running ∧
      Spares uri c.session (c.request w method params).reaction := by
  obtain ⟨⟨hshutdown, hexit⟩, hcommand⟩ : (method ≠ "shutdown" ∧ method ≠ "exit") ∧
      (method = "workspace/executeCommand" →
        (params.bind fun params => (Form.commandRequest false params).toOption).any
          (commandConcerns uri) = false) := by
    simpa [Input.concerns] using h
  have hidle : ∀ answer : Answer, (c.reply answer).connection.phase = .running ∧
      Spares uri c.session (c.reply answer).reaction := fun _ => ⟨hrunning, .quiet⟩
  unfold request
  rw [if_neg (by simp [hrunning]), if_neg hshutdown, if_neg hexit, if_pos hrunning]
  split
  · unfold initial
    rw [hrunning]
    exact hidle _
  split
  · exact hidle _
  split
  · refine ⟨by rw [phase_runningRequest, hrunning], ?_⟩
    unfold runningRequest
    split
    · next hmethod => exact command_spares hkeyed (hcommand hmethod)
    · split
      · unfold withParams
        split
        · exact .quiet
        · split <;> exact .quiet
      · exact .quiet
  split
  · exact hidle _
  · exact hidle _

/-- A notice that does not concern a document leaves it alone, and the server running. -/
theorem notify_spares (hrunning : c.phase = .running) (hkeyed : c.session.Keyed) {method : String}
    {params : Option Json} (h : (Input.notice method params).concerns uri = false) :
    (c.notify w method params).connection.phase = .running ∧
      Spares uri c.session (c.notify w method params).reaction := by
  obtain ⟨⟨hshutdown, hexit⟩, hnotice⟩ : (method ≠ "shutdown" ∧ method ≠ "exit") ∧
      (Notice.read? method params).any (Notice.concerns uri) = false := by
    simpa [Input.concerns] using h
  unfold notify
  rw [hrunning]
  dsimp only
  rw [if_neg hexit, if_neg hshutdown]
  split
  · next notice hread =>
    rw [hread] at hnotice
    exact ⟨hrunning, Session.handle_spares hkeyed hnotice⟩
  · exact ⟨hrunning, .quiet⟩

/-- What comes in and does not concern a document leaves it alone, and the server running, unless it
is that time passes. -/
theorem take_spares (hrunning : c.phase = .running) (hkeyed : c.session.Keyed) {input : Input}
    (h : input.concerns uri = false) (htime : ∀ milliseconds, input ≠ .elapse milliseconds) :
    (c.take w input).connection.phase = .running ∧
      Spares uri c.session (c.take w input).reaction := by
  cases input with
  | request method params => exact request_spares hrunning hkeyed h
  | notice method params => exact notify_spares hrunning hkeyed h
  | elapse milliseconds => exact absurd rfl (htime milliseconds)

end Connection

end LintRelay.Server
