import LintRelay.Proofs.Server.Frame
import LintRelay.Proofs.Server.Versions

/-!
# Passes that wait

A change sets a pass to wait for the quiet period. What waits stands in a queue, from which time
takes away the front (`Act.clock`), so that the place of a pass in it can be told from the time
alone (`Session.Holds`, `Course.due_eq`). When its turn comes, the pass is run if the document is
still there as the change left it and its version had no pass (`Session.Wakes`).
-/

namespace LintRelay.Server

/-! ## The queue -/

section Lists

variable {α : Type} {p q : α → Bool}

/-- What is dropped in two steps, the second of which drops more, is dropped in one. -/
theorem dropWhile_dropWhile (hpq : ∀ a, p a = true → q a = true) (l : List α) :
    (l.dropWhile p).dropWhile q = l.dropWhile q := by
  induction l with
  | nil => rfl
  | cons a rest ih =>
    by_cases hp : p a = true
    · rw [List.dropWhile_cons_of_pos hp, List.dropWhile_cons_of_pos (hpq a hp), ih]
    · rw [List.dropWhile_cons_of_neg hp]

/-- Dropping stops at an element that is not to be dropped, if not before. -/
theorem dropWhile_append_cons {a : α} (ha : ¬ p a = true) (first last : List α) :
    (first ++ a :: last).dropWhile p = first.dropWhile p ++ a :: last := by
  rw [List.dropWhile_append, List.dropWhile_cons_of_neg ha]
  split
  · next hempty =>
    rw [List.isEmpty_iff.1 hempty]
    rfl
  · rfl

end Lists

/-- Every act leaves what waits and the time as they are, but one that lets a pass wait and one by
which time passes. -/
theorem Act.clock {w : World} {s : Session} {r : Reaction} (h : Act w s r) :
    (r.session.waiting = s.waiting ∧ r.session.now = s.now) ∨
      (∃ uri version, r = (s.await uri version).quiet) ∨
      ∃ milliseconds, r = (s.tick milliseconds).quiet := by
  cases h with
  | introduce i _ => exact .inl ⟨rfl, rfl⟩
  | greet => exact .inl ⟨rfl, rfl⟩
  | store d => exact .inl ⟨rfl, rfl⟩
  | resolve uri =>
    obtain ⟨table, messages, hresolved, -⟩ := s.settingsOf_spec w uri
    rw [hresolved]
    exact .inl ⟨rfl, rfl⟩
  | @prepare uri file d settings _ _ _ =>
    obtain ⟨table, messages, hprepared, -⟩ :=
      s.lintersOf_spec w d.uri settings (workspaceRoot s.folders file)
    rw [hprepared]
    exact .inl ⟨rfl, rfl⟩
  | perform _ _ _ _ _ _ _ _ => exact .inl ⟨rfl, rfl⟩
  | decline _ _ _ _ _ => exact .inl ⟨rfl, rfl⟩
  | await uri version => exact .inr (.inl ⟨uri, version, rfl⟩)
  | flush shared => exact .inl ⟨rfl, rfl⟩
  | close uri => exact .inl ⟨rfl, rfl⟩
  | elapse milliseconds => exact .inr (.inr ⟨milliseconds, rfl⟩)

/-- What waits is due within the quiet period, and the first of it is not due yet. -/
structure Session.Timely (s : Session) : Prop where
  /-- Nothing waits longer than the quiet period. -/
  soon : ∀ p ∈ s.waiting, p.due ≤ s.now + quietPeriod
  /-- Nothing is to be taken from the front. -/
  front : s.waiting.dropWhile (·.due ≤ s.now) = s.waiting

/-- Every act keeps what waits timely. -/
theorem Act.timely {w : World} {s : Session} {r : Reaction} (h : Act w s r) (ht : s.Timely) :
    r.session.Timely := by
  obtain ⟨hwaiting, hnow⟩ | ⟨uri, version, rfl⟩ | ⟨milliseconds, rfl⟩ := h.clock
  · constructor
    · rw [hwaiting, hnow]
      exact ht.soon
    · rw [hwaiting, hnow]
      exact ht.front
  · constructor
    · intro p hp
      change p ∈ s.waiting ++ [⟨s.now + quietPeriod, uri, version⟩] at hp
      rcases List.mem_append.1 hp with hp | hp
      · exact ht.soon p hp
      · obtain rfl := List.mem_singleton.1 hp
        exact Nat.le_refl _
    · change List.dropWhile (fun q : Waiting => q.due ≤ s.now)
        (s.waiting ++ [⟨s.now + quietPeriod, uri, version⟩]) = _
      have hlate : ¬ s.now + quietPeriod ≤ s.now := by
        unfold quietPeriod
        omega
      rw [dropWhile_append_cons, ht.front]
      · rfl
      · exact fun h => hlate (of_decide_eq_true h)
  · constructor
    · intro p hp
      have hp : p ∈ s.waiting := (List.dropWhile_sublist _).subset hp
      have hsoon := ht.soon p hp
      change p.due ≤ s.now + milliseconds + quietPeriod
      omega
    · exact dropWhile_dropWhile (fun _ h => h) s.waiting

/-- A pass has its place behind those that waited before it, until it is due. -/
def Session.Holds (s : Session) (old : List Waiting) (p : Waiting) : Prop :=
  s.now < p.due → ∃ later, s.waiting = old.dropWhile (·.due ≤ s.now) ++ p :: later

/-- Every act keeps the place of a pass. -/
theorem Act.holds {w : World} {s : Session} {r : Reaction} (h : Act w s r) {old : List Waiting}
    {p : Waiting} (hp : s.Holds old p) : r.session.Holds old p := by
  intro hdue
  obtain ⟨hwaiting, hnow⟩ | ⟨uri, version, rfl⟩ | ⟨milliseconds, rfl⟩ := h.clock
  · rw [hnow] at hdue ⊢
    rw [hwaiting]
    exact hp hdue
  · obtain ⟨later, hlater⟩ := hp hdue
    refine ⟨later ++ [⟨s.now + quietPeriod, uri, version⟩], ?_⟩
    change s.waiting ++ _ = old.dropWhile (·.due ≤ s.now) ++ _
    rw [hlater, List.append_assoc]
    rfl
  · have hdue : s.now + milliseconds < p.due := hdue
    obtain ⟨later, hlater⟩ := hp (by omega)
    refine ⟨later, ?_⟩
    change s.waiting.dropWhile (·.due ≤ s.now + milliseconds) =
      old.dropWhile (·.due ≤ s.now + milliseconds) ++ p :: later
    have hlate : ∀ q : Waiting, decide (q.due ≤ s.now) = true →
        decide (q.due ≤ s.now + milliseconds) = true := by
      intro q hq
      simp only [decide_eq_true_eq] at hq ⊢
      omega
    rw [hlater, dropWhile_append_cons (by simpa using hdue), dropWhile_dropWhile hlate]

/-- When a pass is due, those that waited before it are due too, and come before it. -/
theorem Session.Holds.due_eq {s : Session} {old : List Waiting} {p : Waiting} (h : s.Holds old p)
    (hold : ∀ q ∈ old, q.due ≤ p.due) (hnow : s.now < p.due) {milliseconds : Nat}
    (hdue : p.due ≤ s.now + milliseconds) :
    ∃ later, s.due milliseconds = old.dropWhile (·.due ≤ s.now) ++ p :: later := by
  obtain ⟨later, hlater⟩ := h hnow
  refine ⟨later.takeWhile (·.due ≤ s.now + milliseconds), ?_⟩
  unfold Session.due
  rw [hlater, List.takeWhile_append_of_pos, List.takeWhile_cons_of_pos (by simpa using hdue)]
  intro q hq
  have hq : q.due ≤ p.due := hold q ((List.dropWhile_sublist _).subset hq)
  simp only [decide_eq_true_eq]
  omega

/-- In every course what waits is timely. -/
theorem Course.timely (inputs : List (World × Input)) :
    (of inputs).connection.session.Timely :=
  keeps (I := fun s _ => s.Timely) ⟨fun _ hp => absurd hp List.not_mem_nil, rfl⟩
    (fun _ _ hact h => hact.timely h) (W := fun _ => True) fun _ _ => trivial

/-! ## Changes -/

/-- The document, as a notice says that it was changed. -/
def Notice.change? : Notice → Option Document
  | .changed uri version (text :: _) => some ⟨uri, text, version⟩
  | _ => none

/-- The document, as an input says that it was changed. -/
def Input.change? : Input → Option Document
  | .notice method params => (Notice.read? method params).bind Notice.change?
  | .request _ _ | .elapse _ => none

/-- The method by which the server is ended, or stopped, gives no notice. -/
theorem ne_of_read? {method : String} {params : Option Json} {notice : Notice}
    (h : Notice.read? method params = some notice) : method ≠ "exit" ∧ method ≠ "shutdown" := by
  constructor
  · rintro rfl
    cases h
  · rintro rfl
    cases h

namespace Session

variable (w : World) (s : Session)

/-- Which settings a document has does not depend on the texts that are kept. -/
theorem settingsOf_fst (documents : Table Document) (uri : Uri) :
    ({ s with documents }.settingsOf w uri).1 = (s.settingsOf w uri).1 := by
  unfold settingsOf
  cases s.settings.get? uri.text <;> rfl

/-- A change under `onType` keeps the text and the settings, and lets a pass wait. -/
theorem changed_eq (d : Document) (rest : List String)
    (htype : (s.settingsOf w d.uri).1.run = .onType) :
    ∃ (table : Table Settings) (messages : List Message),
      s.changed w d.uri d.version (d.text :: rest) =
        ⟨{ s with
            documents := s.documents.insert d.uri.text d
            settings := table
            waiting := s.waiting ++ [⟨s.now + quietPeriod, d.uri, d.version⟩] },
          .noted (.stored d) :: messages.map .sent⟩ ∧
      table.get? d.uri.text = some (s.settingsOf w d.uri).1 := by
  have hsettings : ((s.store d).session.settingsOf w d.uri).1 = (s.settingsOf w d.uri).1 :=
    s.settingsOf_fst w _ d.uri
  obtain ⟨table, messages, hresolved, hkept⟩ := (s.store d).session.settingsOf_spec w d.uri
  rw [hsettings] at hkept
  refine ⟨table, messages, ?_, hkept⟩
  unfold changed Reaction.andThen
  dsimp only
  rw [hsettings, if_pos htype, hresolved]
  dsimp only [quiet]
  rw [List.append_nil]
  rfl

end Session

/-- A notice is handled by a server that is running. -/
theorem Connection.take_notice {c : Connection} (hrunning : c.phase = .running) {method : String}
    {params : Option Json} {notice : Notice} (hread : Notice.read? method params = some notice)
    (w : World) :
    c.take w (.notice method params) = c.proceed (c.session.handle w notice) .silent := by
  obtain ⟨hexit, hshutdown⟩ := ne_of_read? hread
  change c.notify w method params = _
  unfold notify
  rw [hrunning]
  dsimp only
  rw [if_neg hexit, if_neg hshutdown, hread]

/-- A notice leads to nothing on a server that is not running, or if it cannot be read. -/
theorem Connection.notify_reaction {c : Connection} {method : String} {params : Option Json}
    (h : c.phase = .running → Notice.read? method params = none) (w : World) :
    (c.notify w method params).reaction = c.session.quiet := by
  unfold notify
  split
  · rfl
  · next hrunning =>
    split
    · rfl
    split
    · rfl
    rw [h hrunning]
    rfl
  · split <;> rfl

/-- Such a notice leaves the session. -/
theorem Connection.session_notify {c : Connection} {method : String} {params : Option Json}
    (h : c.phase = .running → Notice.read? method params = none) (w : World) :
    (c.notify w method params).connection.session = c.session :=
  congrArg Reaction.session (notify_reaction h w)

/-- A change is handled by a server that is running. -/
theorem Connection.take_change {d : Document} {input : Input} (h : input.change? = some d)
    {c : Connection} (hrunning : c.phase = .running) (w : World) :
    ∃ rest, c.take w input =
      c.proceed (c.session.changed w d.uri d.version (d.text :: rest)) .silent := by
  cases input with
  | request method params => cases h
  | elapse milliseconds => cases h
  | notice method params =>
    obtain ⟨notice, hread, hchange⟩ := Option.bind_eq_some_iff.1 h
    unfold Notice.change? at hchange
    split at hchange
    · next uri version text rest =>
      obtain rfl := Option.some.inj hchange
      exact ⟨rest, take_notice hrunning hread w⟩
    · cases hchange

/-! ## Turns of passes that wait -/

/-- A pass that waits is to be run when its turn comes: the document is open at the version that set
the pass off, neither that version nor a later one had a pass, and the document is a file, whose
text can be copied if it has to be. -/
def Session.Wakes (w : World) (s : Session) (p : Waiting) : Prop :=
  ∃ d file, s.document? p.uri = some d ∧ d.version = p.version ∧
    (∀ last, s.versions.get? p.uri.text = some last → last < p.version) ∧
    p.uri.filePath? = some file ∧
    ((s.settingsOf w p.uri).1.run = .onType → w.scratch.CanCopy file d.text)

namespace Session

variable {w : World} {s : Session} {p : Waiting}

/-- What a pass that waits comes to if the document is a file at the version that set it off. -/
theorem wake_eq {d : Document} (hdocument : s.document? p.uri = some d)
    (hversion : d.version = p.version) : s.wake w p = s.validate w p.uri .onType false := by
  unfold wake
  rw [hdocument]
  exact if_pos hversion

/-- A pass that waits comes to nothing if the document is closed or at another version. -/
theorem wake_eq_quiet (h : ∀ d, s.document? p.uri = some d → d.version ≠ p.version) :
    s.wake w p = s.quiet := by
  unfold wake
  split
  · next d hd => exact if_neg (h d hd)
  · rfl

/-- The passes that analyzing an open file runs. -/
theorem validate_passes (hkeyed : s.Keyed) {uri : Uri} {file : String} {d : Document}
    (trigger : Trigger) (forced : Bool) (hfile : uri.filePath? = some file)
    (hdocument : s.document? uri = some d) :
    (s.validate w uri trigger forced).events.filterMap Event.pass? =
      if s.runs w d file (s.settingsOf w uri).1 forced then
        [s.record w d file (s.settingsOf w uri).1 trigger forced]
      else [] := by
  obtain ⟨first, last, hevents⟩ := s.validate_events w trigger forced hfile hdocument hkeyed
  rw [hevents, List.filterMap_append, filterMap_pass?_sent, List.nil_append]
  split
  · rw [List.filterMap_cons_some (f := Event.pass?) rfl, filterMap_pass?_sent]
  · rw [List.filterMap_cons_none (f := Event.pass?) rfl, filterMap_pass?_sent]

/-- A pass that waits is run exactly if it is to be run, and then once, on the document as it is; it
finds what its linters find. -/
theorem wake_passes (hkeyed : s.Keyed) :
    (s.Wakes w p → ∃ r, (s.wake w p).events.filterMap Event.pass? = [r] ∧
      s.document? p.uri = some r.document ∧ r.request.text = r.document.text ∧
      r.request.trigger = .onType ∧
      r.outcome = Pass.run r.linters r.request (w.runner r.request)) ∧
    (¬ s.Wakes w p → (s.wake w p).events.filterMap Event.pass? = []) := by
  constructor
  · rintro ⟨d, file, hdocument, hversion, hlast, hfile, hcopy⟩
    obtain hd := hkeyed.uri_eq hdocument
    have hcurrent : s.isCurrent d.uri d.version = false := by
      rw [isCurrent_eq_false, hd, hversion]
      exact hlast
    have hruns : s.runs w d file (s.settingsOf w p.uri).1 false = true :=
      runs_iff.2 ⟨.inr hcurrent, hcopy⟩
    rw [wake_eq hdocument hversion, validate_passes hkeyed .onType false hfile hdocument, hruns]
    exact ⟨_, rfl, hdocument, rfl, rfl, rfl⟩
  · intro hwakes
    cases hdocument : s.document? p.uri with
    | none =>
      rw [wake_eq_quiet (by simp [hdocument])]
      rfl
    | some d =>
      by_cases hversion : d.version = p.version
      · rw [wake_eq hdocument hversion]
        cases hfile : p.uri.filePath? with
        | none =>
          unfold validate
          rw [hfile]
          rfl
        | some file =>
          rw [validate_passes hkeyed .onType false hfile hdocument]
          refine if_neg fun hruns => hwakes ?_
          obtain ⟨hcurrent, hcopy⟩ := runs_iff.1 hruns
          have hcurrent := hcurrent.resolve_left Bool.false_ne_true
          rw [isCurrent_eq_false, hkeyed.uri_eq hdocument, hversion] at hcurrent
          exact ⟨d, file, hdocument, hversion, hcurrent, hfile, hcopy⟩
      · rw [wake_eq_quiet fun d' hd' => by rwa [← Option.some.inj (hdocument.symm.trans hd')]]
        rfl

/-- Passes that wait are run one part after the other. -/
theorem wakeEach_append (first last : List Waiting) :
    wakeEach w s (first ++ last) =
      (wakeEach w s first).andThen fun s => wakeEach w s last := by
  induction first generalizing s with
  | nil => rfl
  | cons p rest ih =>
    change ((s.wake w p).andThen fun s => wakeEach w s (rest ++ last)) =
      ((s.wake w p).andThen fun s => wakeEach w s rest).andThen fun s => wakeEach w s last
    unfold Reaction.andThen
    dsimp only
    rw [ih]
    unfold Reaction.andThen
    dsimp only
    rw [List.append_assoc]

/-- As time passes, a pass that becomes due has its turn after those before it. -/
theorem advance_eq {milliseconds : Nat} {earlier later : List Waiting}
    (hdue : s.due milliseconds = earlier ++ p :: later) :
    s.advance w milliseconds = (wakeEach w (s.tick milliseconds) earlier).andThen fun s =>
      (s.wake w p).andThen fun s => wakeEach w s later := by
  unfold advance
  rw [hdue, wakeEach_append]
  rfl

end Session

namespace Course

variable {pre mid : List (World × Input)} {w w' : World} {input : Input} {d : Document}

/-- The course after a change under `onType`. -/
theorem change_eq (hrunning : (of pre).connection.phase = .running)
    (hinput : input.change? = some d)
    (htype : ((of pre).connection.session.settingsOf w d.uri).1.run = .onType) :
    ∃ (table : Table Settings) (messages : List Message),
      of (pre ++ [(w, input)]) =
        ⟨⟨.running,
          { (of pre).connection.session with
            documents := (of pre).connection.session.documents.insert d.uri.text d
            settings := table
            waiting := (of pre).connection.session.waiting ++
              [⟨(of pre).connection.session.now + quietPeriod, d.uri, d.version⟩] }⟩,
          (of pre).trace ++ .noted (.stored d) :: messages.map .sent⟩ ∧
      table.get? d.uri.text = some ((of pre).connection.session.settingsOf w d.uri).1 := by
  obtain ⟨rest, htake⟩ := Connection.take_change hinput hrunning w
  obtain ⟨table, messages, hchanged, hkept⟩ :=
    (of pre).connection.session.changed_eq w d rest htype
  refine ⟨table, messages, ?_, hkept⟩
  rw [of_append]
  change (of pre).next (w, input) = _
  unfold next
  dsimp only
  rw [htake, hchanged, ← hrunning]
  rfl

/-- When the pass that a change has set to wait becomes due, it comes after those that waited before
the change, and before those that came later. -/
theorem due_eq (hrunning : (of pre).connection.phase = .running) (hinput : input.change? = some d)
    (htype : ((of pre).connection.session.settingsOf w d.uri).1.run = .onType)
    (hnow : (of (pre ++ (w, input) :: mid)).connection.session.now <
      (of pre).connection.session.now + quietPeriod) {milliseconds : Nat}
    (hdue : (of pre).connection.session.now + quietPeriod ≤
      (of (pre ++ (w, input) :: mid)).connection.session.now + milliseconds) :
    ∃ later, (of (pre ++ (w, input) :: mid)).connection.session.due milliseconds =
      (of pre).connection.session.waiting.dropWhile
          (·.due ≤ (of (pre ++ (w, input) :: mid)).connection.session.now) ++
        ⟨(of pre).connection.session.now + quietPeriod, d.uri, d.version⟩ :: later := by
  have htimely := timely pre
  have hstart : (of (pre ++ [(w, input)])).connection.session.Holds
      (of pre).connection.session.waiting
      ⟨(of pre).connection.session.now + quietPeriod, d.uri, d.version⟩ := by
    obtain ⟨table, messages, heq, -⟩ := change_eq hrunning hinput htype
    intro _
    rw [heq]
    dsimp only
    rw [htimely.front]
    exact ⟨[], rfl⟩
  have hholds : (of (pre ++ [(w, input)] ++ mid)).connection.session.Holds
      (of pre).connection.session.waiting
      ⟨(of pre).connection.session.now + quietPeriod, d.uri, d.version⟩ :=
    keeps_append (W := fun _ => True)
      (I := fun s _ => s.Holds (of pre).connection.session.waiting
        ⟨(of pre).connection.session.now + quietPeriod, d.uri, d.version⟩)
      (fun _ _ hact h => hact.holds h) hstart fun _ _ => trivial
  rw [← List.append_cons] at hholds
  exact hholds.due_eq htimely.soon hnow hdue

end Course

end LintRelay.Server
