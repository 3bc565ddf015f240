import LintRelay.Proofs.Server.Debounce
import LintRelay.Proofs.Server.Visits

/-!
# What sets off a pass

The settings of a document say when it is analyzed: while it is edited, when it is saved, or after a
build. Each document has settings of its own, looked up when they are first needed.

A change runs no pass. It sets one to wait if the settings say `onType`, and nothing else sets one
to wait (`Session.waiting_handle`), so that every pass that is run as time passes goes back to such
a change (`Course.waiting_origin`). A saved document is analyzed by its own settings
(`Session.saved_passes`). After a build the settings of one document, or those of the workspace,
decide for all open documents (`Session.built_passes`).
-/

namespace LintRelay.Server

/-! ## Passes that wait -/

/-- The passes that a notice sets to wait. -/
def Session.awaited (w : World) (s : Session) (notice : Notice) : List Waiting :=
  match notice.change? with
  | some d => if (s.settingsOf w d.uri).1.run = .onType then [s.waitingFor d] else []
  | none => []

namespace Session

variable {w : World} {s : Session}

/-- Analyzing a document sets nothing to wait. -/
theorem waiting_validate (hkeyed : s.Keyed) (uri : Uri) (trigger : Trigger) (forced : Bool) :
    (s.validate w uri trigger forced).session.waiting = s.waiting := by
  obtain ⟨file, d, hfile, hdocument⟩ | hnone := s.openFile_or uri
  · rw [s.validate_eq w trigger forced hfile hdocument hkeyed]
  · rw [s.validate_quiet w trigger forced hnone]
    rfl

/-- Analyzing documents sets nothing to wait. -/
theorem waiting_validateEach (hkeyed : s.Keyed) (trigger : Trigger) (forced : Bool)
    (uris : List Uri) : (validateEach w trigger forced s uris).session.waiting = s.waiting := by
  induction uris generalizing s with
  | nil => rfl
  | cons uri rest ih =>
    exact (ih (validate_keyed hkeyed uri trigger forced)).trans
      (waiting_validate hkeyed uri trigger forced)

/-- Looking up settings sets nothing to wait. -/
theorem waiting_settingsOf (uri : Uri) : (s.settingsOf w uri).2.session.waiting = s.waiting := by
  obtain ⟨table, messages, hresolved, -⟩ := s.settingsOf_spec w uri
  rw [hresolved]

/-- Running passes that have waited sets nothing to wait. -/
theorem waiting_wakeEach (hkeyed : s.Keyed) (waiting : List Waiting) :
    (wakeEach w s waiting).session.waiting = s.waiting := by
  induction waiting generalizing s with
  | nil => rfl
  | cons p rest ih =>
    have hfirst : (s.wake w p).session.waiting = s.waiting := by
      unfold wake
      split
      · split
        · exact waiting_validate hkeyed p.uri .onType false
        · rfl
      · rfl
    exact (ih ((s.wake_does w p).keyed hkeyed)).trans hfirst

/-- A change keeps a text and runs no pass. If the settings say `onType` it sets one to wait. -/
theorem changed_spec (d : Document) (rest : List String) :
    (s.changed w d.uri d.version (d.text :: rest)).session.waiting = s.waiting ++
        (if (s.settingsOf w d.uri).1.run = .onType then [s.waitingFor d] else []) ∧
      (s.changed w d.uri d.version (d.text :: rest)).events.filterMap Event.pass? = [] := by
  have hsettings : ((s.store d).session.settingsOf w d.uri).1 = (s.settingsOf w d.uri).1 :=
    s.settingsOf_fst w _ d.uri
  obtain ⟨table, messages, hresolved, -⟩ := (s.store d).session.settingsOf_spec w d.uri
  have hevents : (.noted (.stored d) :: (messages.map Event.sent ++ [])).filterMap Event.pass? =
      [] := by
    rw [List.filterMap_cons_none (f := Event.pass?) rfl, List.append_nil, filterMap_pass?_sent]
  unfold changed Reaction.andThen
  dsimp only
  rw [hsettings, hresolved]
  split
  · exact ⟨rfl, hevents⟩
  · exact ⟨(List.append_nil _).symm, hevents⟩

/-- Nothing is set to wait but by a change. -/
theorem waiting_handle (hkeyed : s.Keyed) (notice : Notice) :
    (s.handle w notice).session.waiting = s.waiting ++ s.awaited w notice := by
  cases notice with
  | changed uri version texts =>
    cases texts with
    | nil => exact (List.append_nil _).symm
    | cons text rest => exact (changed_spec (w := w) ⟨uri, text, version⟩ rest).1
  | ready => exact (List.append_nil _).symm
  | opened uri text version =>
    have hstore : Act w s (s.store ⟨uri, text, version⟩) := .store _
    refine Eq.trans ?_ (List.append_nil _).symm
    exact waiting_validate (hstore.keyed hkeyed) uri .onSave false
  | saved uri text =>
    refine Eq.trans ?_ (List.append_nil _).symm
    have hstored : (s.storeSaved uri text).session.waiting = s.waiting := by
      unfold storeSaved
      split <;> rfl
    have hkeyed : (s.storeSaved uri text).session.Keyed :=
      (s.storeSaved_does w uri text).keyed hkeyed
    have hresolve : Act w _ ((s.storeSaved uri text).session.settingsOf w uri).2 := .resolve uri
    have hgo := fun forced => waiting_validate (w := w) (hresolve.keyed hkeyed) uri .onSave forced
    rw [waiting_settingsOf, hstored] at hgo
    change (afterSave w ((s.storeSaved uri text).session.settingsOf w uri).2.session uri
      ((s.storeSaved uri text).session.settingsOf w uri).1).session.waiting = s.waiting
    obtain ⟨forced, hnext⟩ | hnext := afterSave_eq w
      ((s.storeSaved uri text).session.settingsOf w uri).2.session uri
      ((s.storeSaved uri text).session.settingsOf w uri).1
    · rw [hnext]
      exact hgo forced
    · rw [hnext]
      exact (waiting_settingsOf uri).trans hstored
  | closed uri => exact (List.append_nil _).symm
  | settingsChanged settings =>
    refine Eq.trans ?_ (List.append_nil _).symm
    exact waiting_validateEach (s := (s.flush _).session) hkeyed .onSave false _
  | filesChanged uris =>
    refine Eq.trans ?_ (List.append_nil _).symm
    change (s.filesChanged w uris).session.waiting = s.waiting
    unfold filesChanged
    split
    · exact waiting_validateEach (s := (s.flush _).session) hkeyed .onSave true _
    · rfl
  | built document =>
    refine Eq.trans ?_ (List.append_nil _).symm
    have hgo : ∀ (settings : Settings) {s' : Session}, s'.Keyed →
        (if settings.run = .onBuild then s'.validateAll w .onBuild true
          else s'.quiet).session.waiting = s'.waiting := by
      intro settings s' hkeyed
      split
      · exact waiting_validateEach hkeyed .onBuild true _
      · rfl
    cases document with
    | none => exact hgo s.shared hkeyed
    | some uri =>
      have hresolve : Act w s (s.settingsOf w uri).2 := .resolve uri
      exact (hgo _ (hresolve.keyed hkeyed)).trans (waiting_settingsOf uri)

/-- A command sets nothing to wait. -/
theorem waiting_command (hkeyed : s.Keyed) {name : String} {arguments : List Json} {r : Reaction}
    (h : s.command w name arguments = .ok r) : r.session.waiting = s.waiting := by
  unfold command at h
  split at h
  · split at h
    · next uri _ =>
      obtain rfl := Except.ok.inj h
      exact waiting_validate hkeyed uri .onSave true
    · cases h
  · split at h
    · obtain rfl := Except.ok.inj h
      exact waiting_validateEach hkeyed .onSave true _
    · cases h

end Session

namespace Connection

variable {w : World} {c : Connection}

/-- A request does nothing, or introduces the editor, or carries out a command. -/
theorem request_keeps {P : Reaction → Prop} (hself : P c.session.quiet)
    (hintroduce : ∀ i, P (c.session.introduce w i).quiet)
    (hcommand : ∀ {name : String} {arguments : List Json} {r : Reaction},
      c.session.command w name arguments = .ok r → P r)
    (method : String) (params : Option Json) :
    P (c.request w method params).reaction := by
  have hparams : ∀ {form : Form} {go : Json → Turn}, (∀ json, P (go json).reaction) →
      P (c.withParams form params go).reaction := by
    intro form go hgo
    unfold withParams
    split
    · exact hself
    · split
      · exact hself
      · exact hgo _
  unfold request
  split
  · exact hself
  split
  · unfold initial
    split
    · exact hself
    · split
      · exact hself
      · exact hintroduce _
    · exact hself
  split
  · unfold stop
    split <;> exact hself
  split
  · exact hself
  split
  · exact hself
  split
  · split
    · unfold runningRequest
      split
      · refine hparams fun json => ?_
        split
        · next r hr => exact hcommand hr
        · exact hself
      · split
        · exact hparams fun _ => hself
        · exact hself
    · exact hself
  split <;> exact hself

/-- What waits after an input has waited before, or the input is a change under `onType` that has
set it to wait. -/
theorem mem_waiting_take (hkeyed : c.session.Keyed) {input : Input} {p : Waiting}
    (hp : p ∈ (c.take w input).connection.session.waiting) :
    p ∈ c.session.waiting ∨ c.phase = .running ∧ ∃ d, input.change? = some d ∧
      (c.session.settingsOf w d.uri).1.run = .onType ∧ p = c.session.waitingFor d := by
  cases input with
  | request method params =>
    have hsame : (c.request w method params).connection.session.waiting = c.session.waiting :=
      request_keeps (P := fun r => r.session.waiting = c.session.waiting) rfl (fun _ => rfl)
        (Session.waiting_command hkeyed) method params
    exact .inl (hsame ▸ hp)
  | elapse milliseconds =>
    change p ∈ (c.advance w milliseconds).connection.session.waiting at hp
    unfold advance at hp
    split at hp
    · exact .inl hp
    · have hsame := Session.waiting_wakeEach (w := w) (s := c.session.tick milliseconds) hkeyed
        (c.session.due milliseconds)
      change p ∈ (Session.wakeEach w _ _).session.waiting at hp
      rw [hsame] at hp
      exact .inl ((List.dropWhile_sublist _).subset hp)
  | notice method params =>
    by_cases hrunning : c.phase = .running
    · cases hread : Notice.read? method params with
      | none =>
        change p ∈ (c.notify w method params).connection.session.waiting at hp
        rw [session_notify fun _ => hread] at hp
        exact .inl hp
      | some notice =>
        rw [take_notice hrunning hread] at hp
        change p ∈ (c.session.handle w notice).session.waiting at hp
        rw [Session.waiting_handle hkeyed] at hp
        refine (List.mem_append.1 hp).imp_right fun hp => ⟨hrunning, ?_⟩
        unfold Session.awaited at hp
        split at hp
        · next d hchange =>
          split at hp
          · next htype =>
            refine ⟨d, ?_, htype, List.mem_singleton.1 hp⟩
            change (Notice.read? method params).bind Notice.change? = some d
            rw [hread]
            exact hchange
          · exact absurd hp List.not_mem_nil
        · exact absurd hp List.not_mem_nil
    · change p ∈ (c.notify w method params).connection.session.waiting at hp
      rw [session_notify fun h => absurd h hrunning] at hp
      exact .inl hp

end Connection

/-- Every pass that waits was set to wait by a change, while the server was running, under settings
that said `onType`. -/
theorem Course.waiting_origin {inputs : List (World × Input)} {p : Waiting}
    (hp : p ∈ (of inputs).connection.session.waiting) :
    ∃ pre w input mid d, inputs = pre ++ (w, input) :: mid ∧
      (of pre).connection.phase = .running ∧ input.change? = some d ∧
      ((of pre).connection.session.settingsOf w d.uri).1.run = .onType ∧
      p = (of pre).connection.session.waitingFor d := by
  -- The last input has set the pass to wait, or it waited before.
  induction hreverse : inputs.reverse generalizing inputs with
  | nil =>
    rw [List.reverse_eq_nil_iff.1 hreverse] at hp
    exact absurd hp List.not_mem_nil
  | cons last rest ih =>
    obtain ⟨w, input⟩ := last
    have hinputs : inputs = rest.reverse ++ [(w, input)] := by
      rw [← List.reverse_cons, ← hreverse, List.reverse_reverse]
    subst hinputs
    rw [of_append] at hp
    rcases Connection.mem_waiting_take (keyed _) hp with hp | ⟨hrunning, d, hinput, htype, hp⟩
    · obtain ⟨pre, w', input', mid, d, hsplit, horigin⟩ := ih hp (List.reverse_reverse rest)
      refine ⟨pre, w', input', mid ++ [(w, input)], d, ?_, horigin⟩
      rw [hsplit, List.append_assoc]
      rfl
    · exact ⟨rest.reverse, w, input, [], d, rfl, hrunning, hinput, htype, hp⟩

/-- A pass that is run with those that have waited is over the document of one of them, at the
version that set it off. -/
theorem Session.exists_of_mem_wakeEach {w : World} {s : Session} (hkeyed : s.Keyed)
    {waiting : List Waiting} {r : PassRecord}
    (hr : r ∈ (wakeEach w s waiting).events.filterMap Event.pass?) :
    ∃ p ∈ waiting, p.uri = r.document.uri ∧ p.version = r.document.version := by
  induction waiting generalizing s with
  | nil => exact absurd hr List.not_mem_nil
  | cons p rest ih =>
    change r ∈ ((s.wake w p).events ++ _).filterMap Event.pass? at hr
    rw [List.filterMap_append] at hr
    rcases List.mem_append.1 hr with hr | hr
    · refine ⟨p, List.mem_cons_self, ?_⟩
      obtain ⟨hruns, hquiet⟩ := wake_passes (w := w) (p := p) hkeyed
      by_cases hwakes : s.Wakes w p
      · obtain ⟨r', hpasses, hdocument', -⟩ := hruns hwakes
        obtain ⟨d, -, hdocument, hversion, -⟩ := hwakes
        rw [hpasses] at hr
        obtain rfl := List.mem_singleton.1 hr
        obtain rfl := Option.some.inj (hdocument.symm.trans hdocument')
        exact ⟨(hkeyed.uri_eq hdocument).symm, hversion.symm⟩
      · rw [hquiet hwakes] at hr
        exact absurd hr List.not_mem_nil
    · obtain ⟨p', hp', hmatch⟩ := ih ((s.wake_does w p).keyed hkeyed) hr
      exact ⟨p', List.mem_cons_of_mem _ hp', hmatch⟩

/-! ## Saves and builds -/

/-- The settings that decide whether a build has documents analyzed: those of its document, or else
those of the workspace. -/
def Session.deciding (w : World) (s : Session) : Option Uri → Settings
  | some uri => (s.settingsOf w uri).1
  | none => s.shared

namespace Session

variable {w : World} {s : Session} {uri : Uri} {file : String} {d : Document}

/-- Once settings were looked up, each document has the settings that it had before. -/
theorem settingsOf_settingsOf (other uri : Uri) :
    ((s.settingsOf w other).2.session.settingsOf w uri).1 = (s.settingsOf w uri).1 := by
  by_cases hother : other = uri
  · subst hother
    exact settingsOf_of_get? w _ (by simp)
  · obtain ⟨table, messages, hresolved, -⟩ := s.settingsOf_spec w other
    have hkept : (s.settingsOf w other).2.session.settings.get? uri.text =
        s.settings.get? uri.text := by simp [Uri.text_ne hother]
    rw [hresolved] at hkept ⊢
    exact Alike.settingsOf_fst ⟨rfl, hkept, rfl, rfl, rfl, rfl, rfl⟩

/-- A saved document is analyzed by its settings: under `onSave` if its version had no pass, and
under `onType` whatever the version, if its text can be copied. -/
theorem saved_passes (hkeyed : s.Keyed) (hfile : uri.filePath? = some file)
    (hdocument : s.document? uri = some d) (text : Option String) :
    ((s.saved w uri text).events.filterMap Event.pass?).map (fun r => (r.document, r.forced)) =
      match (s.settingsOf w uri).1.run with
      | .onSave =>
        if s.isCurrent uri d.version then [] else [({ d with text := text.getD d.text }, false)]
      | .onType =>
        if w.scratch.CanCopy file (text.getD d.text) then
          [({ d with text := text.getD d.text }, true)]
        else []
      | .onBuild => [] := by
  obtain rfl := hkeyed.uri_eq hdocument
  -- What is stored is the document with its new text, if there is one.
  obtain ⟨documents, stored, hstored, hdocument', hpasses⟩ : ∃ documents stored,
      s.storeSaved d.uri text = ⟨{ s with documents }, stored⟩ ∧
        { s with documents }.document? d.uri = some { d with text := text.getD d.text } ∧
        stored.filterMap Event.pass? = [] := by
    cases text with
    | none => exact ⟨s.documents, [], rfl, hdocument, rfl⟩
    | some text =>
      unfold storeSaved
      rw [hdocument]
      refine ⟨_, _, rfl, ?_, rfl⟩
      change (s.documents.insert d.uri.text _).get? d.uri.text = _
      simp
  have hkeyed' : { s with documents }.Keyed := by
    have hkeyed' := (s.storeSaved_does w d.uri text).keyed hkeyed
    rw [hstored] at hkeyed'
    exact hkeyed'
  obtain ⟨table, messages, hresolved, hkept⟩ := { s with documents }.settingsOf_spec w d.uri
  rw [settingsOf_fst] at hkept
  have hsettings : ({ s with documents, settings := table }.settingsOf w d.uri).1 =
      (s.settingsOf w d.uri).1 := settingsOf_of_get? w _ hkept
  have hruns : ∀ forced, { s with documents, settings := table }.runs w
      { d with text := text.getD d.text } file (s.settingsOf w d.uri).1 forced =
        ((forced || !s.isCurrent d.uri d.version) &&
          (w.shadow? (s.settingsOf w d.uri).1 file (text.getD d.text)).isSome) := fun _ => rfl
  have hvalidate := fun forced => validate_passes (w := w)
    (s := { s with documents, settings := table }) hkeyed' .onSave forced hfile hdocument'
  unfold saved Reaction.andThen
  rw [hstored]
  dsimp only
  rw [settingsOf_fst, hresolved, List.filterMap_append, List.filterMap_append, hpasses,
    filterMap_pass?_sent, List.nil_append, List.nil_append]
  cases hrun : (s.settingsOf w d.uri).1.run with
  | onSave =>
    dsimp only
    have hsave : (s.settingsOf w d.uri).1.run ≠ .onType := by rw [hrun]; decide
    rw [hvalidate, hsettings, hruns, World.shadow?, if_neg hsave]
    cases s.isCurrent d.uri d.version <;> rfl
  | onType =>
    dsimp only
    rw [hvalidate, hsettings, hruns, World.shadow?, if_pos hrun]
    by_cases hcopy : w.scratch.CanCopy file (text.getD d.text)
    · rw [Scratch.isSome_copy?.2 hcopy, if_pos hcopy]
      rfl
    · rw [Bool.eq_false_iff.2 (mt Scratch.isSome_copy?.1 hcopy), if_neg hcopy]
      rfl
  | onBuild => rfl

/-- The passes over an open file that analyzing it runs. -/
theorem passesOver_validate (hkeyed : s.Keyed) (hfile : uri.filePath? = some file)
    (hdocument : s.document? uri = some d) (trigger : Trigger) (forced : Bool) :
    passesOver (s.validate w uri trigger forced).events uri =
      if s.runs w d file (s.settingsOf w uri).1 forced then
        [s.record w d file (s.settingsOf w uri).1 trigger forced]
      else [] := by
  unfold passesOver
  rw [validate_passes hkeyed trigger forced hfile hdocument]
  split
  · exact List.filter_cons_of_pos (decide_eq_true (hkeyed.uri_eq hdocument))
  · rfl

/-- When all open documents are to be analyzed whatever their versions, each file is, unless its
text has to be copied and cannot be. -/
theorem validateAll_passes (hkeyed : s.Keyed) (hfile : uri.filePath? = some file)
    (hdocument : s.document? uri = some d) (trigger : Trigger) :
    (passesOver (s.validateAll w trigger true).events uri).map (fun r => (r.document, r.forced)) =
      if (s.settingsOf w uri).1.run = .onType → w.scratch.CanCopy file d.text then
        [(d, true)]
      else [] := by
  have hvisited := s.visitedUris_perm w
  have hopen : uri ∈ s.visitedUris w :=
    hvisited.mem_iff.2 ((mem_openUris hkeyed).2 ⟨d, hdocument⟩)
  obtain ⟨-, halone⟩ := validateEach_alone (w := w) hkeyed
    (hvisited.nodup_iff.2 (openUris_nodup hkeyed)) hopen trigger true
  unfold validateAll
  rw [halone, passesOver_validate hkeyed hfile hdocument]
  have hruns : s.runs w d file (s.settingsOf w uri).1 true = true ↔
      ((s.settingsOf w uri).1.run = .onType → w.scratch.CanCopy file d.text) :=
    runs_iff.trans (and_iff_right (.inl rfl))
  split
  · next hrun => exact (if_pos (hruns.1 hrun)).symm
  · next hrun => exact (if_neg fun hcopy => hrun (hruns.2 hcopy)).symm

/-- After a build the deciding settings have all open files analyzed, or none. The settings of a
file itself only say whether its text has to be copied. -/
theorem built_passes (hkeyed : s.Keyed) (hfile : uri.filePath? = some file)
    (hdocument : s.document? uri = some d) (document : Option Uri) :
    (passesOver (s.built w document).events uri).map (fun r => (r.document, r.forced)) =
      if (s.deciding w document).run = .onBuild ∧
          ((s.settingsOf w uri).1.run = .onType → w.scratch.CanCopy file d.text) then
        [(d, true)]
      else [] := by
  have hgo : ∀ {s' : Session} (settings : Settings) (messages : List Message), s'.Keyed →
      s'.document? uri = some d → (s'.settingsOf w uri).1 = (s.settingsOf w uri).1 →
      (passesOver (messages.map .sent ++ (if settings.run = .onBuild then
        s'.validateAll w .onBuild true else s'.quiet).events) uri).map
          (fun r => (r.document, r.forced)) =
        if settings.run = .onBuild ∧
            ((s.settingsOf w uri).1.run = .onType → w.scratch.CanCopy file d.text) then
          [(d, true)]
        else [] := by
    intro s' settings messages hkeyed hdocument hsettings
    rw [passesOver_append, passesOver_sent, List.nil_append]
    by_cases hbuild : settings.run = .onBuild
    · rw [if_pos hbuild, validateAll_passes hkeyed hfile hdocument, hsettings]
      simp only [hbuild, true_and]
    · rw [if_neg hbuild, if_neg fun h => hbuild h.1]
      rfl
  cases document with
  | none => exact hgo s.shared [] hkeyed hdocument rfl
  | some other =>
    -- Looking up the deciding settings changes no document, and no settings that one has.
    have hagain := settingsOf_settingsOf (w := w) (s := s) other uri
    obtain ⟨table, messages, hresolved, -⟩ := s.settingsOf_spec w other
    unfold built Reaction.andThen deciding
    dsimp only
    rw [hresolved] at hagain ⊢
    exact hgo (s.settingsOf w other).1 messages hkeyed hdocument hagain

end Session

/-! ## The policy -/

/-- What sets off passes, along every course.

A change runs no pass, and sets one to wait exactly if the settings of the document say `onType`.
Every pass that is run as time passes is one that such a change has set to wait, over the document
and at the version of the change.

A saved file is analyzed by its own settings: never under `onBuild`, under `onSave` if its version
had no pass, and under `onType` always, if its text can be copied in the world in which it is saved.

After a build the settings of the document that it is about, or else those of the workspace, decide
for all open files: each of them is analyzed once if they say `onBuild`, unless its text has to be
copied and cannot be, and none is otherwise. So a file is analyzed exactly if its own settings say
`onBuild`, where they say the same as those that decide. -/
theorem trigger_policy (inputs : List (World × Input)) {c : Connection}
    (hc : c = (Course.of inputs).connection) :
    (∀ {w : World} {input : Input} {d : Document}, c.phase = .running → input.change? = some d →
      (c.take w input).events.filterMap Event.pass? = [] ∧
      (c.take w input).connection.session.waiting = c.session.waiting ++
        (if (c.session.settingsOf w d.uri).1.run = .onType then [c.session.waitingFor d]
        else [])) ∧
    (∀ {w : World} {milliseconds : Nat} {r : PassRecord},
      .passed r ∈ (c.take w (.elapse milliseconds)).events →
      ∃ pre w' input mid d, inputs = pre ++ (w', input) :: mid ∧
        (Course.of pre).connection.phase = .running ∧ input.change? = some d ∧
        ((Course.of pre).connection.session.settingsOf w' d.uri).1.run = .onType ∧
        (Course.of pre).connection.session.waitingFor d ∈ c.session.due milliseconds ∧
        d.uri = r.document.uri ∧ d.version = r.document.version) ∧
    (∀ {w : World} {method : String} {params : Option Json} {uri : Uri} {text : Option String}
      {file : String} {d : Document}, c.phase = .running →
      Notice.read? method params = some (.saved uri text) → uri.filePath? = some file →
      c.session.document? uri = some d →
      ((c.take w (.notice method params)).events.filterMap Event.pass?).map
          (fun r => (r.document, r.forced)) =
        match (c.session.settingsOf w uri).1.run with
        | .onSave =>
          if c.session.isCurrent uri d.version then []
          else [({ d with text := text.getD d.text }, false)]
        | .onType =>
          if w.scratch.CanCopy file (text.getD d.text) then
            [({ d with text := text.getD d.text }, true)]
          else []
        | .onBuild => []) ∧
    (∀ {w : World} {method : String} {params : Option Json} {document : Option Uri} {uri : Uri}
      {file : String} {d : Document}, c.phase = .running →
      Notice.read? method params = some (.built document) → uri.filePath? = some file →
      c.session.document? uri = some d →
      (passesOver (c.take w (.notice method params)).events uri).map
          (fun r => (r.document, r.forced)) =
        (if (c.session.deciding w document).run = .onBuild ∧
            ((c.session.settingsOf w uri).1.run = .onType → w.scratch.CanCopy file d.text) then
          [(d, true)]
        else []) ∧
      ((c.session.settingsOf w uri).1.run = (c.session.deciding w document).run →
        (passesOver (c.take w (.notice method params)).events uri ≠ [] ↔
          (c.session.settingsOf w uri).1.run = .onBuild))) := by
  have hkeyed : c.session.Keyed := hc ▸ Course.keyed inputs
  refine ⟨?_, ?_, ?_, ?_⟩
  · intro w input d hrunning hinput
    obtain ⟨rest, htake⟩ := Connection.take_change hinput hrunning w
    obtain ⟨hwaiting, hpasses⟩ := c.session.changed_spec (w := w) d rest
    rw [htake]
    exact ⟨hpasses, hwaiting⟩
  · intro w milliseconds r hr
    change .passed r ∈ (c.advance w milliseconds).events at hr
    unfold Connection.advance at hr
    split at hr
    · exact absurd hr List.not_mem_nil
    · have hpass : r ∈ (c.session.advance w milliseconds).events.filterMap Event.pass? :=
        List.mem_filterMap.2 ⟨_, hr, rfl⟩
      obtain ⟨p, hp, huri, hversion⟩ :=
        Session.exists_of_mem_wakeEach (s := c.session.tick milliseconds) hkeyed hpass
      have hwaits : p ∈ (Course.of inputs).connection.session.waiting :=
        hc ▸ (List.takeWhile_sublist _).subset hp
      obtain ⟨pre, w', input, mid, d, hsplit, hrunning, hinput, htype, rfl⟩ :=
        Course.waiting_origin hwaits
      exact ⟨pre, w', input, mid, d, hsplit, hrunning, hinput, htype, hp, huri, hversion⟩
  · intro w method params uri text file d hrunning hread hfile hdocument
    rw [Connection.take_notice hrunning hread]
    exact Session.saved_passes hkeyed hfile hdocument text
  · intro w method params document uri file d hrunning hread hfile hdocument
    have hpasses := Session.built_passes (w := w) hkeyed hfile hdocument document
    rw [Connection.take_notice hrunning hread]
    refine ⟨hpasses, fun hsame => ?_⟩
    rw [ne_eq, ← List.map_eq_nil_iff (f := fun r : PassRecord => (r.document, r.forced))]
    change ¬ (passesOver (c.session.built w document).events uri).map _ = [] ↔ _
    rw [hpasses, hsame]
    -- Under `onBuild` nothing is copied.
    by_cases hbuild : (c.session.deciding w document).run = .onBuild
    · rw [if_pos ⟨hbuild, fun htype => by rw [hbuild] at htype; cases htype⟩]
      simp [hbuild]
    · rw [if_neg fun h => hbuild h.1]
      simp [hbuild]

namespace Mixed

/-- A document that is analyzed after builds. -/
def built : Uri := ⟨"file:///ws/a.c"⟩

/-- A document that is analyzed when it is saved. -/
def saved : Uri := ⟨"file:///ws/b.c"⟩

/-- A document that is analyzed while it is edited. -/
def edited : Uri := ⟨"file:///ws/c.c"⟩

/-- A world whose editor has settings of its own for each document. -/
def world : World :=
  { World.bare with
    editor := ⟨fun uri => some [.object [("run", .string
      (if uri = built then "onBuild" else if uri = saved then "onSave" else "onType"))]]⟩ }

/-- The editor introduces itself, and answers requests for settings. -/
def introduction : Input :=
  .request "initialize" (some (.object
    [("capabilities", .object [("workspace", .object [("configuration", .bool true)])]),
      ("rootUri", .string "file:///ws")]))

/-- The three documents are opened. -/
def inputs : List (World × Input) :=
  [(world, introduction), (world, .opens ⟨built, "", 1⟩), (world, .opens ⟨saved, "", 1⟩),
    (world, .opens ⟨edited, "", 1⟩)]

/-- Then one of them is changed. -/
def changing : List (World × Input) := inputs ++ [(world, .changes ⟨edited, "", 2⟩)]

/-- What is said when a build has ended. -/
def buildParams (document : Option Uri) : Json :=
  .object (document.toList.map fun uri => ("document", .string uri.text))

end Mixed

/-- Of three documents with settings of their own, one is analyzed after a build that is about it,
one is not when it is changed, and one is when it was left alone after a change and when it is
saved. -/
theorem mixed_triggers :
    (∀ c, c = (Course.of Mixed.inputs).connection →
      (c.take Mixed.world (.changes ⟨Mixed.saved, "", 2⟩)).connection.session.waiting = [] ∧
      (c.take Mixed.world (.changes ⟨Mixed.edited, "", 2⟩)).connection.session.waiting =
        [⟨1500, Mixed.edited, 2⟩] ∧
      ((c.take Mixed.world (.saves Mixed.edited)).events.filterMap Event.pass?).map
        (fun r => (r.document, r.forced)) = [(⟨Mixed.edited, "", 1⟩, true)] ∧
      passesOver (c.take Mixed.world (.notice "onBuild"
        (some (Mixed.buildParams (some Mixed.built))))).events Mixed.built ≠ []) ∧
    ∃ (r : PassRecord) (d : Document),
      .passed r ∈ ((Course.of Mixed.changing).connection.take Mixed.world (.elapse 1500)).events ∧
      d.uri = r.document.uri ∧ d.version = r.document.version := by
  have hrun : (Course.of Mixed.inputs).connection.phase = .running ∧
      (Course.of Mixed.inputs).connection.session.waiting = [] ∧
      (Course.of Mixed.inputs).connection.session.now = 0 ∧
      ([Mixed.built, Mixed.saved, Mixed.edited].map fun uri =>
        ((Course.of Mixed.inputs).connection.session.settingsOf Mixed.world uri).1.run) =
          [.onBuild, .onSave, .onType] ∧
      ([Mixed.built, Mixed.edited].map fun uri =>
        (uri.filePath?, (Course.of Mixed.inputs).connection.session.document? uri)) =
          [(some "/ws/a.c", some ⟨Mixed.built, "", 1⟩),
            (some "/ws/c.c", some ⟨Mixed.edited, "", 1⟩)] ∧
      (((Course.of Mixed.changing).connection.take Mixed.world (.elapse 1500)).events.filterMap
        Event.pass?).length = 1 := by
    decide +kernel
  obtain ⟨hrunning, hwaiting, hnow, hruns, hopen, hpass⟩ := hrun
  simp only [List.map_cons, List.map_nil, List.cons.injEq, Prod.mk.injEq, and_true] at hruns hopen
  obtain ⟨hbuilt, hsaved, hedited⟩ := hruns
  obtain ⟨⟨hfile, hdocument⟩, hfile', hdocument'⟩ := hopen
  constructor
  · intro c hc
    obtain ⟨hchange, -, hsave, hbuild⟩ := trigger_policy Mixed.inputs hc
    rw [← hc] at hrunning hwaiting hnow hbuilt hsaved hedited hdocument hdocument'
    have hread : Notice.read? "textDocument/didSave" (some (.object [("textDocument", .object
        [("uri", .string Mixed.edited.text)])])) = some (.saved Mixed.edited none) := rfl
    have hread' : Notice.read? "onBuild" (some (Mixed.buildParams (some Mixed.built))) =
        some (.built (some Mixed.built)) := rfl
    have hinput : ∀ uri ∈ [Mixed.saved, Mixed.edited],
        (Input.changes ⟨uri, "", 2⟩).change? = some ⟨uri, "", 2⟩ := by
      decide +kernel
    refine ⟨?_, ?_, ?_, ?_⟩
    · have hnone := (hchange (w := Mixed.world) hrunning (hinput Mixed.saved (by simp))).2
      rw [hwaiting, hsaved] at hnone
      exact hnone
    · have hone := (hchange (w := Mixed.world) hrunning (hinput Mixed.edited (by simp))).2
      rw [hwaiting, hedited] at hone
      unfold Session.waitingFor at hone
      rw [hnow] at hone
      exact hone
    · have hsaves := hsave (w := Mixed.world) hrunning hread hfile' hdocument'
      rw [hedited] at hsaves
      exact hsaves
    · exact ((hbuild (w := Mixed.world) hrunning hread' hfile hdocument).2 rfl).2 hbuilt
  · obtain ⟨-, htime, -⟩ := trigger_policy Mixed.changing rfl
    obtain ⟨r, hr⟩ := List.length_eq_one_iff.1 hpass
    have hr : r ∈ ((Course.of Mixed.changing).connection.take Mixed.world
        (.elapse 1500)).events.filterMap Event.pass? := by
      rw [hr]
      exact List.mem_singleton_self r
    obtain ⟨e, he, her⟩ := List.mem_filterMap.1 hr
    obtain rfl := Event.eq_passed her
    obtain ⟨-, -, -, -, d, -, -, -, -, -, hd⟩ := htime he
    exact ⟨r, d, he, hd⟩

/-- A build that is about a document to be analyzed after builds has one analyzed that is not; and a
build that is about the other, or about none, has the first not analyzed. A document whose text
cannot be copied is not analyzed when it is saved, though its settings say `onType`. -/
theorem build_decided_for_all :
    ((Course.of Mixed.inputs).connection.session.settingsOf Mixed.world Mixed.built).1.run =
        .onBuild ∧
    ((Course.of Mixed.inputs).connection.session.settingsOf Mixed.world Mixed.saved).1.run =
        .onSave ∧
    (passesOver ((Course.of Mixed.inputs).connection.take Mixed.world (.notice "onBuild"
      (some (Mixed.buildParams (some Mixed.built))))).events Mixed.saved).length = 1 ∧
    (∀ document ∈ [some Mixed.saved, none],
      (passesOver ((Course.of Mixed.inputs).connection.take Mixed.world (.notice "onBuild"
        (some (Mixed.buildParams document)))).events Mixed.built).length = 0) ∧
    ((Course.of Uncopied.inputs).connection.session.settingsOf .bare Uncopied.document.uri).1.run =
        .onType ∧
    (Course.of Uncopied.inputs).connection.session.document? Uncopied.document.uri =
        some Uncopied.document ∧
    (((Course.of Uncopied.inputs).connection.take .bare
      (.saves Uncopied.document.uri)).events.filterMap Event.pass?).length = 0 := by
  decide +kernel

end LintRelay.Server
