import LintRelay.Proofs.Server.Queue
import Mathlib.Algebra.GroupWithZero.Nat

/-!
# Bursts of changes

In a burst of changes all passes that wait but the last find a newer version. That is shown by what
keeps through inputs that do not concern the document (`Calm`): until the last pass is due nothing
that is woken has anything to do for the document (`Pending`), and after it neither (`Settled`).

`debounced_pass_spec` says when the pass of a change is run, and that a burst leads to one pass.
-/

namespace LintRelay.Server

/-! ## What leaves a document alone as time passes -/

/-- A pass that waits has nothing to do for a document: it is one over another, or it was set off by
another version, or that version had its pass. -/
def Lapsed (uri : Uri) (s : Session) (p : Waiting) : Prop :=
  p.uri = uri → ∀ d, s.document? uri = some d → d.version = p.version →
    s.isCurrent uri d.version = true ∧ ∃ settings, s.settings.get? uri.text = some settings

/-- What leaves a document alone leaves it alone with what waits. -/
theorem Lapsed.spares {uri : Uri} {s : Session} {p : Waiting} (h : Lapsed uri s p) {r : Reaction}
    (hspares : Spares uri s r) : Lapsed uri r.session p := by
  intro huri d hd hversion
  rw [hspares.document] at hd
  obtain ⟨hcurrent, settings, hsettings⟩ := h huri d hd hversion
  rw [hspares.settings]
  refine ⟨?_, settings, hsettings⟩
  unfold Session.isCurrent at hcurrent ⊢
  rw [hspares.version]
  exact hcurrent

/-- A pass that has nothing to do for a document leaves it alone. -/
theorem Spares.wake {w : World} {uri : Uri} {s : Session} {p : Waiting} (hkeyed : s.Keyed)
    (h : Lapsed uri s p) : Spares uri s (s.wake w p) := by
  by_cases hmatch : ∃ d, s.document? p.uri = some d ∧ d.version = p.version
  · obtain ⟨d, hdocument, hversion⟩ := hmatch
    rw [Session.wake_eq hdocument hversion]
    by_cases huri : p.uri = uri
    · -- The version had its pass and the settings are kept, so that nothing is looked up or run.
      rw [huri] at hdocument ⊢
      obtain ⟨hcurrent, settings, hsettings⟩ := h huri d hdocument hversion
      have hkept : s.settingsOf w uri = (settings, s.quiet) := by
        unfold Session.settingsOf
        rw [hsettings]
      unfold Session.validate
      split
      · next file d' hfile hd' =>
        obtain rfl := Option.some.inj (hdocument.symm.trans hd')
        rw [hkept]
        dsimp only
        refine quiet.andThen ?_
        change Spares uri s (if !false && s.isCurrent uri d.version then _ else _)
        rw [hcurrent]
        exact note _
      · exact quiet
    · exact validate huri hkeyed .onType false
  · rw [Session.wake_eq_quiet fun d hd hversion => hmatch ⟨d, hd, hversion⟩]
    exact quiet

/-- Passes that have nothing to do for a document leave it alone. -/
theorem Spares.wakeEach {w : World} {uri : Uri} {s : Session} {waiting : List Waiting}
    (hkeyed : s.Keyed) (h : ∀ p ∈ waiting, Lapsed uri s p) :
    Spares uri s (Session.wakeEach w s waiting) := by
  induction waiting generalizing s with
  | nil => exact quiet
  | cons p rest ih =>
    have hwake : Spares uri s (s.wake w p) := wake hkeyed (h p List.mem_cons_self)
    refine hwake.andThen (ih ((s.wake_does w p).keyed hkeyed) fun q hq => ?_)
    exact (h q (List.mem_cons_of_mem _ hq)).spares hwake

/-- How long an input lasts, in milliseconds. -/
def Input.duration : Input → Nat
  | .elapse milliseconds => milliseconds
  | .request _ _ | .notice _ _ => 0

/-- How long inputs last, in milliseconds. -/
def elapsed (inputs : List (World × Input)) : Nat := (inputs.map (·.2.duration)).sum

/-- A property of sessions, and of the time that is still to pass, by which a document is left alone
meanwhile. -/
structure Calm (uri : Uri) (K : Nat → Session → Prop) : Prop where
  /-- It is kept by all that leaves the document alone. -/
  spares : ∀ {n : Nat} {s : Session} {r : Reaction}, K n s → Spares uri s r → K n r.session
  /-- It is kept as time passes, and what becomes due has nothing to do for the document. -/
  tick : ∀ {milliseconds n : Nat} {s : Session}, K (milliseconds + n) s →
    K n (s.tick milliseconds) ∧ ∀ p ∈ s.due milliseconds, Lapsed uri (s.tick milliseconds) p

/-- Time that passes in a session in which a document is left alone runs no pass over it. -/
theorem Calm.advance {uri : Uri} {K : Nat → Session → Prop} (hcalm : Calm uri K) {w : World}
    {s : Session} (hkeyed : s.Keyed) {milliseconds n : Nat} (hK : K (milliseconds + n) s) :
    K n (s.advance w milliseconds).session ∧
      passesOver (s.advance w milliseconds).events uri = [] := by
  obtain ⟨htick, hlapsed⟩ := hcalm.tick hK
  have hkeyed : (s.tick milliseconds).Keyed := hkeyed
  have hspares : Spares uri (s.tick milliseconds) (s.advance w milliseconds) :=
    .wakeEach hkeyed hlapsed
  exact ⟨hcalm.spares htick hspares, hspares.passes⟩

/-- An input that does not concern a document runs no pass over it, if it is left alone as long as
the input lasts. -/
theorem Calm.take {uri : Uri} {K : Nat → Session → Prop} (hcalm : Calm uri K) {w : World}
    {c : Connection} (hrunning : c.phase = .running) (hkeyed : c.session.Keyed) {input : Input}
    (hinput : input.concerns uri = false) {n : Nat} (hK : K (input.duration + n) c.session) :
    (c.take w input).connection.phase = .running ∧ K n (c.take w input).connection.session ∧
      passesOver (c.take w input).events uri = [] := by
  by_cases htime : ∃ milliseconds, input = .elapse milliseconds
  · obtain ⟨milliseconds, rfl⟩ := htime
    change (c.advance w milliseconds).connection.phase = .running ∧
      K n (c.advance w milliseconds).connection.session ∧
      passesOver (c.advance w milliseconds).events uri = []
    unfold Connection.advance
    rw [if_neg (by simp [hrunning])]
    exact ⟨hrunning, hcalm.advance hkeyed hK⟩
  · have htime : ∀ milliseconds, input ≠ .elapse milliseconds := fun milliseconds heq =>
      htime ⟨milliseconds, heq⟩
    obtain ⟨hphase, hspares⟩ := Connection.take_spares (w := w) hrunning hkeyed hinput htime
    have hduration : input.duration = 0 := by
      cases input with
      | request method params => rfl
      | notice method params => rfl
      | elapse milliseconds => exact absurd rfl (htime milliseconds)
    rw [hduration, Nat.zero_add] at hK
    exact ⟨hphase, hcalm.spares hK hspares, hspares.passes⟩

/-- Inputs that do not concern a document run no pass over it, if it is left alone as long as they
last. -/
theorem Calm.append {uri : Uri} {K : Nat → Session → Prop} (hcalm : Calm uri K)
    {pre others : List (World × Input)} (hrunning : (Course.of pre).connection.phase = .running)
    (hothers : ∀ input ∈ others, input.2.concerns uri = false)
    (hK : K (elapsed others) (Course.of pre).connection.session) :
    (Course.of (pre ++ others)).connection.phase = .running ∧
      K 0 (Course.of (pre ++ others)).connection.session ∧
      passesOver (Course.of (pre ++ others)).trace uri = passesOver (Course.of pre).trace uri := by
  induction others generalizing pre with
  | nil =>
    rw [List.append_nil]
    exact ⟨hrunning, hK, rfl⟩
  | cons input rest ih =>
    obtain ⟨hphase, hK, hpasses⟩ := hcalm.take (w := input.1) hrunning (Course.keyed pre)
      (hothers _ List.mem_cons_self) hK
    have hnext : Course.of (pre ++ [input]) = (Course.of pre).next input :=
      Course.of_append pre [input]
    have hpasses : passesOver (Course.of (pre ++ [input])).trace uri =
        passesOver (Course.of pre).trace uri := by
      rw [hnext]
      change passesOver (_ ++ _) uri = _
      rw [passesOver_append, hpasses, List.append_nil]
    rw [List.append_cons, ← hpasses]
    refine ih ?_ (fun other hother => hothers other (List.mem_cons_of_mem _ hother)) ?_
    · rw [hnext]
      exact hphase
    · rw [hnext]
      exact hK

/-! ### Before and after the pass -/

/-- A document was changed, and the pass over it is due at a certain time; no other pass that waits
is about its version or one of those that are still to come. -/
structure Pending (uri : Uri) (settings : Settings) (d : Document) (due : Nat) (future : List Int)
    (s : Session) : Prop where
  /-- The document is open. -/
  document : s.document? uri = some d
  /-- Its settings are kept. -/
  settings : s.settings.get? uri.text = some settings
  /-- Neither its version nor one of those to come had a pass. -/
  version : ∀ last, s.versions.get? uri.text = some last → ∀ v ∈ d.version :: future, last < v
  /-- Nothing waits for a version to come, and what waits for its own is due at that time. -/
  timers : ∀ p ∈ s.waiting, p.uri = uri → p.version ∉ future ∧ (p.version = d.version → p.due = due)

/-- The version of a document had its pass, and its settings are kept. -/
structure Settled (uri : Uri) (s : Session) : Prop where
  /-- Its settings are kept. -/
  settings : ∃ settings, s.settings.get? uri.text = some settings
  /-- Its version had a pass. -/
  current : ∀ d, s.document? uri = some d → s.isCurrent uri d.version = true

/-- Until its pass is due, a changed document is left alone. -/
theorem Pending.calm {uri : Uri} {settings : Settings} {d : Document} {due : Nat}
    {future : List Int} {time : Nat} (htime : time < due) :
    Calm uri fun n s => Pending uri settings d due future s ∧ s.now + n = time where
  spares {n s r} hK hspares := by
    obtain ⟨h, hnow⟩ := hK
    refine ⟨⟨?_, ?_, ?_, ?_⟩, ?_⟩
    · rw [hspares.document]
      exact h.document
    · rw [hspares.settings]
      exact h.settings
    · rw [hspares.version]
      exact h.version
    · intro p hp huri
      obtain ⟨more, hmore, hother⟩ := hspares.waiting
      rw [hmore] at hp
      rcases List.mem_append.1 hp with hp | hp
      · exact h.timers p hp huri
      · exact absurd huri (hother p hp)
    · rw [hspares.now]
      exact hnow
  tick {milliseconds n s} hK := by
    obtain ⟨h, hnow⟩ := hK
    have hsub : ∀ p ∈ (s.tick milliseconds).waiting, p ∈ s.waiting :=
      fun p hp => (List.dropWhile_sublist _).subset hp
    refine ⟨⟨⟨h.document, h.settings, h.version, fun p hp => h.timers p (hsub p hp)⟩, ?_⟩, ?_⟩
    · change s.now + milliseconds + n = time
      omega
    · intro p hp huri d' hd' hversion
      -- What is due already is not the pass that is due later.
      have hsoon : p.due ≤ s.now + milliseconds :=
        of_decide_eq_true (List.all_eq_true.1 List.all_takeWhile p hp)
      have hwaiting : p ∈ s.waiting := (List.takeWhile_sublist _).subset hp
      obtain rfl := Option.some.inj (h.document.symm.trans hd')
      have hdue := (h.timers p hwaiting huri).2 hversion.symm
      omega

/-- After its pass a document is left alone. -/
theorem Settled.calm {uri : Uri} : Calm uri fun _ s => Settled uri s where
  spares {n s r} h hspares := by
    constructor
    · rw [hspares.settings]
      exact h.settings
    · intro d hd
      rw [hspares.document] at hd
      have hcurrent := h.current d hd
      unfold Session.isCurrent at hcurrent ⊢
      rw [hspares.version]
      exact hcurrent
  tick {milliseconds n s} h :=
    ⟨⟨h.settings, h.current⟩, fun _ _ _ d hd _ => ⟨h.current d hd, h.settings⟩⟩

namespace Session

variable {w : World} {s : Session} {file : String} {d : Document}

/-- After a pass its document is settled. -/
theorem pass_settled {settings : Settings} (trigger : Trigger) (forced : Bool)
    (hdocument : s.document? d.uri = some d)
    (hsettings : s.settings.get? d.uri.text = some settings)
    (hcopy : settings.run = .onType → w.scratch.CanCopy file d.text) :
    Settled d.uri (s.pass w d file settings trigger forced).session := by
  obtain ⟨table, messages, hprepared, -⟩ :=
    s.lintersOf_spec w d.uri settings (workspaceRoot s.folders file)
  obtain ⟨shadow, hshadow⟩ := Option.isSome_iff_exists.1 (World.isSome_shadow?.2 hcopy)
  unfold pass Reaction.andThen
  dsimp only
  rw [hshadow, hprepared]
  constructor
  · exact ⟨settings, hsettings⟩
  · intro d' hd'
    obtain rfl := Option.some.inj (hdocument.symm.trans hd')
    refine isCurrent_of_get? ?_ (Int.le_refl d.version)
    change (s.versions.insert d.uri.text d.version).get? d.uri.text = some d.version
    simp

/-- After it was analyzed, an open file is settled. -/
theorem validate_settled (hkeyed : s.Keyed) {uri : Uri} (trigger : Trigger) (forced : Bool)
    (hfile : uri.filePath? = some file) (hdocument : s.document? uri = some d)
    (hruns : s.runs w d file (s.settingsOf w uri).1 forced = true) :
    Settled uri (s.validate w uri trigger forced).session := by
  obtain rfl := hkeyed.uri_eq hdocument
  obtain ⟨table, messages, hresolved, hsettings⟩ := s.settingsOf_spec w d.uri
  obtain ⟨hversion, hcopy⟩ := runs_iff.1 hruns
  have hgo : ¬ (!forced && { s with settings := table }.isCurrent d.uri d.version) = true := by
    change ¬ (!forced && s.isCurrent d.uri d.version) = true
    rcases hversion with hforced | hversion
    · simp [hforced]
    · simp [hversion]
  unfold validate Reaction.andThen
  rw [hfile, hdocument]
  dsimp only
  rw [hresolved]
  dsimp only
  rw [if_neg hgo]
  exact pass_settled trigger forced hdocument hsettings hcopy

/-- A pass that is to be run when its turn comes is run once, and leaves its document settled. -/
theorem Wakes.once {p : Waiting} (hwakes : s.Wakes w p) (hkeyed : s.Keyed) :
    Settled p.uri (s.wake w p).session ∧
      ∃ r, passesOver (s.wake w p).events p.uri = [r] ∧ s.document? p.uri = some r.document ∧
        r.request.text = r.document.text ∧ r.request.trigger = .onType ∧
        r.outcome = Pass.run r.linters r.request (w.runner r.request) := by
  constructor
  · obtain ⟨d, file, hdocument, hversion, hlast, hfile, hcopy⟩ := hwakes
    rw [wake_eq hdocument hversion]
    refine validate_settled hkeyed .onType false hfile hdocument (runs_iff.2 ⟨.inr ?_, hcopy⟩)
    rw [isCurrent_eq_false, hkeyed.uri_eq hdocument, hversion]
    exact hlast
  · obtain ⟨r, hpasses, hdocument, hrequest⟩ := (wake_passes hkeyed).1 hwakes
    refine ⟨r, ?_, hdocument, hrequest⟩
    unfold passesOver
    rw [hpasses]
    simp [hkeyed.uri_eq hdocument]

end Session

/-- When its pass becomes due, a changed document is analyzed once and then settled, if it is a file
whose text can be copied and none of those that have their turn before waits for its version. -/
theorem Pending.advance {w : World} {uri : Uri} {settings : Settings} {d : Document} {due : Nat}
    {future : List Int} {s : Session} (h : Pending uri settings d due future s) (hkeyed : s.Keyed)
    {file : String} (hfile : uri.filePath? = some file)
    (hcopy : w.scratch.CanCopy file d.text) {milliseconds : Nat}
    {earlier later : List Waiting}
    (hdue : s.due milliseconds = earlier ++ ⟨due, uri, d.version⟩ :: later)
    (hearlier : ∀ q ∈ earlier, q.uri = uri → q.version ≠ d.version) :
    Settled uri (s.advance w milliseconds).session ∧
      ∃ r, passesOver (s.advance w milliseconds).events uri = [r] ∧ r.document = d ∧
        r.request.text = d.text ∧ r.request.trigger = .onType ∧
        r.outcome = Pass.run r.linters r.request (w.runner r.request) := by
  have hkeyed : (s.tick milliseconds).Keyed := hkeyed
  have hdocument : (s.tick milliseconds).document? uri = some d := h.document
  have hbefore : Spares uri (s.tick milliseconds)
      (Session.wakeEach w (s.tick milliseconds) earlier) := by
    refine .wakeEach hkeyed fun q hq huri d' hd' hversion => ?_
    obtain rfl := Option.some.inj (hdocument.symm.trans hd')
    exact absurd hversion.symm (hearlier q hq huri)
  have hkeyed' : (Session.wakeEach w (s.tick milliseconds) earlier).session.Keyed :=
    (Session.wakeEach_does w (s.tick milliseconds) earlier).keyed hkeyed
  rw [Session.advance_eq hdue]
  generalize Session.wakeEach w (s.tick milliseconds) earlier = before at *
  -- Now it is the turn of the pass, and nothing about the document has changed.
  have hwakes : before.session.Wakes w ⟨due, uri, d.version⟩ := by
    refine ⟨d, file, ?_, rfl, fun last hlast => ?_, hfile, fun _ => hcopy⟩
    · rw [hbefore.document]
      exact hdocument
    · rw [hbefore.version] at hlast
      exact h.version last hlast _ List.mem_cons_self
  obtain ⟨hsettled, r, hpasses, hr, hrequest⟩ := hwakes.once hkeyed'
  have hwoken : (before.session.wake w ⟨due, uri, d.version⟩).session.Keyed :=
    (before.session.wake_does w _).keyed hkeyed'
  have hafter : Spares uri (before.session.wake w ⟨due, uri, d.version⟩).session
      (Session.wakeEach w (before.session.wake w ⟨due, uri, d.version⟩).session later) :=
    .wakeEach hwoken fun _ _ _ d' hd' _ => ⟨hsettled.current d' hd', hsettled.settings⟩
  rw [hbefore.document, hdocument] at hr
  obtain rfl := Option.some.inj hr
  have hend : Settled uri (Session.wakeEach w
      (before.session.wake w ⟨due, uri, r.document.version⟩).session later).session :=
    Settled.calm.spares (n := 0) hsettled hafter
  refine ⟨hend, r, ?_, rfl, hrequest⟩
  change passesOver (before.events ++ (_ ++ _)) uri = [r]
  rw [passesOver_append, passesOver_append, hbefore.passes, hpasses, hafter.passes]
  rfl

/-! ## Bursts -/

/-- A change of a document, and what comes in after it. -/
structure Round where
  /-- The world of the change. -/
  world : World
  /-- The change. -/
  input : Input
  /-- The new text. -/
  text : String
  /-- The new version. -/
  version : Int
  /-- What comes in after it. -/
  after : List (World × Input)

/-- All that comes in in a round. -/
def Round.inputs (r : Round) : List (World × Input) := (r.world, r.input) :: r.after

/-- The quiet period after the change of a round ends in a world: that of the input in whose course
it ends. -/
def Round.EndsIn (r : Round) (w : World) : Prop :=
  ∃ first milliseconds rest, r.after = first ++ (w, .elapse milliseconds) :: rest ∧
    elapsed first < quietPeriod ∧ quietPeriod ≤ elapsed first + milliseconds

/-- A document is changed to higher and higher versions, each time before it was left alone for the
quiet period, and then left alone for so long. Nothing else that comes in concerns it. -/
structure Burst (uri : Uri) (rounds : List Round) (last : Round) : Prop where
  /-- Each round begins with a change of the document. -/
  changes : ∀ r ∈ rounds ++ [last], r.input.change? = some ⟨uri, r.text, r.version⟩
  /-- Nothing else concerns it. -/
  apart : ∀ r ∈ rounds ++ [last], ∀ input ∈ r.after, input.2.concerns uri = false
  /-- Versions go up. -/
  ascending : ((rounds ++ [last]).map Round.version).Pairwise (· < ·)
  /-- The next change comes before the quiet period is over. -/
  gaps : ∀ r ∈ rounds, elapsed r.after < quietPeriod
  /-- After the last one there is quiet. -/
  quiet : quietPeriod ≤ elapsed last.after

/-- Some versions of a document are new: all are higher than the one that had the latest pass, and
no pass waits for one of them. -/
structure Session.Awaits (s : Session) (uri : Uri) (versions : List Int) : Prop where
  /-- They are higher than the version of the latest pass. -/
  version : ∀ last, s.versions.get? uri.text = some last → ∀ v ∈ versions, last < v
  /-- No pass waits for one of them. -/
  timers : ∀ p ∈ s.waiting, p.uri = uri → p.version ∉ versions

section Burst

variable {pre : List (World × Input)} {uri : Uri}

/-- Time that has to pass comes to an end in some input. -/
theorem exists_elapse {inputs : List (World × Input)} {n : Nat} (hn : 0 < n)
    (h : n ≤ elapsed inputs) :
    ∃ first w milliseconds rest, inputs = first ++ (w, .elapse milliseconds) :: rest ∧
      elapsed first < n ∧ n ≤ elapsed first + milliseconds := by
  induction inputs generalizing n with
  | nil => exact absurd h (Nat.not_le.2 hn)
  | cons input rest ih =>
    have hcons : ∀ more, elapsed (input :: more) = input.2.duration + elapsed more := fun _ => rfl
    rw [hcons] at h
    by_cases hnow : n ≤ input.2.duration
    · obtain ⟨w, input⟩ := input
      cases input with
      | request method params => exact absurd (Nat.lt_of_lt_of_le hn hnow) (Nat.lt_irrefl 0)
      | notice method params => exact absurd (Nat.lt_of_lt_of_le hn hnow) (Nat.lt_irrefl 0)
      | elapse milliseconds =>
        refine ⟨[], w, milliseconds, rest, rfl, hn, ?_⟩
        change n ≤ 0 + milliseconds
        rw [Nat.zero_add]
        exact hnow
    · obtain ⟨first, w, milliseconds, last, hrest, hfirst, hn⟩ :=
        ih (n := n - input.2.duration) (by omega) (by omega)
      refine ⟨input :: first, w, milliseconds, last, by rw [hrest]; rfl, ?_, ?_⟩
      · rw [hcons]
        omega
      · rw [hcons]
        omega

/-- After a change its pass is pending. -/
theorem pending_of_change (hrunning : (Course.of pre).connection.phase = .running) {w : World}
    {input : Input} {d : Document} (hinput : input.change? = some d)
    (htype : ((Course.of pre).connection.session.settingsOf w d.uri).1.run = .onType)
    {future : List Int} (hfuture : d.version ∉ future)
    (hawaits : (Course.of pre).connection.session.Awaits d.uri (d.version :: future)) :
    (Course.of (pre ++ [(w, input)])).connection.phase = .running ∧
      Pending d.uri ((Course.of pre).connection.session.settingsOf w d.uri).1 d
        ((Course.of pre).connection.session.now + quietPeriod) future
        (Course.of (pre ++ [(w, input)])).connection.session ∧
      (Course.of (pre ++ [(w, input)])).connection.session.now =
        (Course.of pre).connection.session.now ∧
      passesOver (Course.of (pre ++ [(w, input)])).trace d.uri =
        passesOver (Course.of pre).trace d.uri := by
  obtain ⟨table, messages, heq, htable⟩ := Course.change_eq hrunning hinput htype
  rw [heq]
  refine ⟨rfl, ⟨?_, htable, hawaits.version, ?_⟩, rfl, ?_⟩
  · change ((Course.of pre).connection.session.documents.insert d.uri.text d).get? d.uri.text =
      some d
    simp
  · intro p hp huri
    rcases List.mem_append.1 hp with hp | hp
    · have hnew := hawaits.timers p hp huri
      exact ⟨fun hmem => hnew (List.mem_cons_of_mem _ hmem),
        fun hversion => absurd (hversion ▸ List.mem_cons_self) hnew⟩
    · obtain rfl := List.mem_singleton.1 hp
      exact ⟨hfuture, fun _ => rfl⟩
  · have hnone : passesOver (.noted (.stored d) :: messages.map .sent) d.uri = [] :=
      passesOver_sent messages d.uri
    dsimp only
    rw [passesOver_append, hnone, List.append_nil]

/-- A change of a document to a version, and what comes in before its pass is due, runs no pass over
it and leaves the later versions new. -/
theorem round_passes (hrunning : (Course.of pre).connection.phase = .running) {r : Round}
    (hinput : r.input.change? = some ⟨uri, r.text, r.version⟩)
    (hafter : ∀ input ∈ r.after, input.2.concerns uri = false)
    (hgap : elapsed r.after < quietPeriod)
    (htype : ((Course.of pre).connection.session.settingsOf r.world uri).1.run = .onType)
    {future : List Int} (hfuture : r.version ∉ future)
    (hawaits : (Course.of pre).connection.session.Awaits uri (r.version :: future)) :
    (Course.of (pre ++ r.inputs)).connection.phase = .running ∧
      (∀ w, ((Course.of (pre ++ r.inputs)).connection.session.settingsOf w uri).1.run = .onType) ∧
      (Course.of (pre ++ r.inputs)).connection.session.Awaits uri future ∧
      passesOver (Course.of (pre ++ r.inputs)).trace uri =
        passesOver (Course.of pre).trace uri := by
  obtain ⟨hphase, hpending, hnow, hpasses⟩ :=
    pending_of_change (d := ⟨uri, r.text, r.version⟩) hrunning hinput htype hfuture hawaits
  have htime : (Course.of pre).connection.session.now + elapsed r.after <
      (Course.of pre).connection.session.now + quietPeriod := by omega
  obtain ⟨hphase, ⟨hpending, -⟩, hcalm⟩ := (Pending.calm htime).append hphase hafter
    ⟨hpending, by rw [hnow]⟩
  unfold Round.inputs
  rw [List.append_cons]
  refine ⟨hphase, fun w => ?_, ⟨?_, ?_⟩, hcalm.trans hpasses⟩
  · unfold Session.settingsOf
    rw [hpending.settings]
    exact htype
  · intro last hlast v hv
    exact hpending.version last hlast v (List.mem_cons_of_mem _ hv)
  · intro p hp huri
    exact (hpending.timers p hp huri).1

/-- A change of a document, after which it is left alone for the quiet period, leads to one pass
over it. -/
theorem last_round_passes (hrunning : (Course.of pre).connection.phase = .running) {r : Round}
    (hinput : r.input.change? = some ⟨uri, r.text, r.version⟩)
    (hafter : ∀ input ∈ r.after, input.2.concerns uri = false)
    (hquiet : quietPeriod ≤ elapsed r.after)
    (htype : ((Course.of pre).connection.session.settingsOf r.world uri).1.run = .onType)
    (hawaits : (Course.of pre).connection.session.Awaits uri [r.version]) {file : String}
    (hfile : uri.filePath? = some file)
    (hcopy : ∀ w, r.EndsIn w → w.scratch.CanCopy file r.text) :
    ∃ w record, r.EndsIn w ∧ passesOver (Course.of (pre ++ r.inputs)).trace uri =
        passesOver (Course.of pre).trace uri ++ [record] ∧
      record.document = ⟨uri, r.text, r.version⟩ ∧ record.request.text = r.text ∧
      record.request.trigger = .onType ∧
      record.outcome = Pass.run record.linters record.request (w.runner record.request) := by
  obtain ⟨mid, w, milliseconds, rest, hsplit, hmid, hreach⟩ := exists_elapse (by decide) hquiet
  have hends : r.EndsIn w := ⟨mid, milliseconds, rest, hsplit, hmid, hreach⟩
  obtain ⟨hphase, hpending, hnow, hpasses⟩ :=
    pending_of_change (d := ⟨uri, r.text, r.version⟩) hrunning hinput htype List.not_mem_nil hawaits
  have htime : (Course.of pre).connection.session.now + elapsed mid <
      (Course.of pre).connection.session.now + quietPeriod := by omega
  have hothers : ∀ input ∈ mid, input.2.concerns uri = false := fun input hmem =>
    hafter input (by rw [hsplit]; exact List.mem_append_left _ hmem)
  -- Until the pass is due nothing happens to the document.
  obtain ⟨hphase, ⟨hpending, hnow⟩, hcalm⟩ := (Pending.calm htime).append hphase hothers
    ⟨hpending, by rw [hnow]⟩
  rw [← List.append_cons] at hphase hpending hnow hcalm
  obtain ⟨later, hdue⟩ : ∃ later,
      (Course.of (pre ++ (r.world, r.input) :: mid)).connection.session.due milliseconds =
        _ ++ ⟨(Course.of pre).connection.session.now + quietPeriod, uri, r.version⟩ :: later :=
    Course.due_eq (d := ⟨uri, r.text, r.version⟩) hrunning hinput htype (by omega) (by omega)
  have hearlier : ∀ q ∈ (Course.of pre).connection.session.waiting.dropWhile
      (·.due ≤ (Course.of (pre ++ (r.world, r.input) :: mid)).connection.session.now),
      q.uri = uri → q.version ≠ r.version := by
    intro q hq huri hversion
    have hq : q ∈ (Course.of pre).connection.session.waiting := (List.dropWhile_sublist _).subset hq
    exact hawaits.timers q hq huri (List.mem_singleton.2 hversion)
  -- Then it has its turn, and after it nothing happens to the document again.
  obtain ⟨hsettled, record, hrecord, hdocument, hrequest⟩ :=
    hpending.advance (w := w) (Course.keyed _) hfile (hcopy w hends) hdue hearlier
  have hnext : Course.of (pre ++ (r.world, r.input) :: mid ++ [(w, .elapse milliseconds)]) =
      ⟨⟨.running, ((Course.of (pre ++ (r.world, r.input) :: mid)).connection.session.advance w
        milliseconds).session⟩, (Course.of (pre ++ (r.world, r.input) :: mid)).trace ++
        ((Course.of (pre ++ (r.world, r.input) :: mid)).connection.session.advance w
          milliseconds).events⟩ := by
    rw [Course.of_append]
    change (Course.of _).next _ = _
    unfold Course.next Connection.take Connection.advance
    dsimp only
    rw [if_neg (by simp [hphase]), ← hphase]
    rfl
  have hothers : ∀ input ∈ rest, input.2.concerns uri = false := fun input hmem =>
    hafter input (by rw [hsplit]; exact List.mem_append_right _ (List.mem_cons_of_mem _ hmem))
  have hend : passesOver (Course.of
        (pre ++ (r.world, r.input) :: mid ++ [(w, .elapse milliseconds)] ++ rest)).trace uri =
      passesOver (Course.of
        (pre ++ (r.world, r.input) :: mid ++ [(w, .elapse milliseconds)])).trace uri :=
    (Settled.calm.append (by rw [hnext]) hothers (by rw [hnext]; exact hsettled)).2.2
  refine ⟨w, record, hends, ?_, hdocument, hrequest⟩
  have hinputs : pre ++ r.inputs =
      pre ++ (r.world, r.input) :: mid ++ [(w, .elapse milliseconds)] ++ rest := by
    unfold Round.inputs
    rw [hsplit]
    simp
  rw [hinputs, hend, hnext]
  dsimp only
  rw [passesOver_append, hrecord, hcalm, hpasses]

/-- The versions of a burst without its first round. -/
theorem Burst.tail {r : Round} {rounds : List Round} {last : Round}
    (h : Burst uri (r :: rounds) last) : Burst uri rounds last where
  changes r' hr' := h.changes r' (List.mem_cons_of_mem _ hr')
  apart r' hr' := h.apart r' (List.mem_cons_of_mem _ hr')
  ascending := (List.pairwise_cons.1 h.ascending).2
  gaps r' hr' := h.gaps r' (List.mem_cons_of_mem _ hr')
  quiet := h.quiet

/-- A burst of changes to new versions of a file leads to one pass over it, with the last text. -/
theorem Burst.passes {rounds : List Round} {last : Round} (h : Burst uri rounds last)
    (hrunning : (Course.of pre).connection.phase = .running)
    (htype : ∀ r ∈ (rounds ++ [last]).head?,
      ((Course.of pre).connection.session.settingsOf r.world uri).1.run = .onType)
    (hawaits : (Course.of pre).connection.session.Awaits uri ((rounds ++ [last]).map Round.version))
    {file : String} (hfile : uri.filePath? = some file)
    (hcopy : ∀ w, last.EndsIn w → w.scratch.CanCopy file last.text) :
    ∃ w record, last.EndsIn w ∧
      passesOver (Course.of (pre ++ (rounds ++ [last]).flatMap Round.inputs)).trace uri =
        passesOver (Course.of pre).trace uri ++ [record] ∧
      record.document = ⟨uri, last.text, last.version⟩ ∧ record.request.text = last.text ∧
      record.request.trigger = .onType ∧
      record.outcome = Pass.run record.linters record.request (w.runner record.request) := by
  induction rounds generalizing pre with
  | nil =>
    rw [List.nil_append, List.flatMap_singleton]
    exact last_round_passes hrunning (h.changes last List.mem_cons_self)
      (h.apart last List.mem_cons_self) h.quiet (htype last rfl) hawaits hfile hcopy
  | cons r rest ih =>
    have hfuture : r.version ∉ (rest ++ [last]).map Round.version := fun hmem =>
      Int.lt_irrefl _ ((List.pairwise_cons.1 h.ascending).1 _ hmem)
    obtain ⟨hphase, htype, hawaits, hpasses⟩ := round_passes hrunning
      (h.changes r List.mem_cons_self) (h.apart r List.mem_cons_self) (h.gaps r List.mem_cons_self)
      (htype r rfl) hfuture hawaits
    obtain ⟨w, record, hends, hrecord, hrest⟩ :=
      ih h.tail hphase (fun r' _ => htype r'.world) hawaits
    refine ⟨w, record, hends, ?_, hrest⟩
    rw [List.cons_append, List.flatMap_cons, ← List.append_assoc, hrecord, hpasses]

end Burst

/-! ## Debouncing -/

/-- The pass that a change of a document sets to wait. -/
def Session.waitingFor (s : Session) (d : Document) : Waiting :=
  ⟨s.now + quietPeriod, d.uri, d.version⟩

/-- The pass that a change sets to wait under `onType` has its turn when the quiet period is over,
after those that waited before the change. It is run exactly if the document is then open at the
version of the change, neither that version nor a later one had a pass, and the document is a file
whose text can be copied then if it has to be; and its linters are run on the document as it is
then. So a burst of changes of a file to new versions leads to one pass over it, with the last text,
if that text can be copied when the quiet period ends. -/
theorem debounced_pass_spec {pre : List (World × Input)}
    (hrunning : (Course.of pre).connection.phase = .running) :
    (∀ {w : World} {input : Input} {d : Document}, input.change? = some d →
      ((Course.of pre).connection.session.settingsOf w d.uri).1.run = .onType →
      ∀ {mid : List (World × Input)} {c : Connection},
        c = (Course.of (pre ++ (w, input) :: mid)).connection → c.phase ≠ .ended →
      ∀ {p : Waiting}, p = (Course.of pre).connection.session.waitingFor d →
        c.session.now < p.due → ∀ {milliseconds : Nat}, p.due ≤ c.session.now + milliseconds →
      ∀ (w' : World), ∃ (before : Reaction) (later : List Waiting),
        before = Session.wakeEach w' (c.session.tick milliseconds)
          ((Course.of pre).connection.session.waiting.dropWhile (·.due ≤ c.session.now)) ∧
        (c.take w' (.elapse milliseconds)).events = before.events ++
          ((before.session.wake w' p).events ++
            (Session.wakeEach w' (before.session.wake w' p).session later).events) ∧
        (before.session.Wakes w' p →
          ∃ r, (before.session.wake w' p).events.filterMap Event.pass? = [r] ∧
            before.session.document? d.uri = some r.document ∧
            r.request.text = r.document.text ∧ r.request.trigger = .onType ∧
            r.outcome = Pass.run r.linters r.request (w'.runner r.request)) ∧
        (¬ before.session.Wakes w' p →
          (before.session.wake w' p).events.filterMap Event.pass? = [])) ∧
    (∀ {uri : Uri} {rounds : List Round} {last : Round}, Burst uri rounds last →
      (∀ r ∈ (rounds ++ [last]).head?,
        ((Course.of pre).connection.session.settingsOf r.world uri).1.run = .onType) →
      (Course.of pre).connection.session.Awaits uri ((rounds ++ [last]).map Round.version) →
      ∀ {file : String}, uri.filePath? = some file →
      (∀ w, last.EndsIn w → w.scratch.CanCopy file last.text) →
      ∃ w record, last.EndsIn w ∧
        passesOver (Course.of (pre ++ (rounds ++ [last]).flatMap Round.inputs)).trace uri =
          passesOver (Course.of pre).trace uri ++ [record] ∧
        record.document = ⟨uri, last.text, last.version⟩ ∧ record.request.text = last.text ∧
        record.request.trigger = .onType ∧
        record.outcome = Pass.run record.linters record.request (w.runner record.request)) := by
  constructor
  · rintro w input d hinput htype mid c rfl hphase p rfl hnow milliseconds hdue w'
    obtain ⟨later, hlater⟩ := Course.due_eq hrunning hinput htype hnow hdue
    have hkeyed : ((Course.of (pre ++ (w, input) :: mid)).connection.session.tick
      milliseconds).Keyed := Course.keyed (pre ++ (w, input) :: mid)
    refine ⟨_, later, rfl, ?_, Session.wake_passes ((Session.wakeEach_does w' _ _).keyed hkeyed)⟩
    change (Connection.advance w' _ milliseconds).events = _
    unfold Connection.advance
    rw [if_neg hphase]
    exact congrArg Reaction.events (Session.advance_eq hlater)
  · intro uri rounds last hburst htype hawaits file hfile hcopy
    exact hburst.passes hrunning htype hawaits hfile hcopy

namespace Typing

/-- Clang, which repeats as a warning what it reads in the file that it is handed. -/
def clang : Program := fun texts arguments =>
  let target := arguments.getLastD ""
  ⟨some 1, [], (target ++ ":1:1: warning: " ++ (texts target).getD "nothing").toUTF8.toList⟩

/-- A world in which this Clang is the only analyzer. -/
def world : World := .installing "clang" clang

/-- The document. -/
def uri : Uri := ⟨"file:///ws/a.c"⟩

/-- The editor introduces itself, and documents are to be analyzed while they are edited. -/
def introduction : World × Input :=
  (world, .introduces ⟨"file:///ws"⟩ (.object [("run", .string "onType")]))

/-- A document is opened. -/
def start : List (World × Input) := [introduction, (world, .opens ⟨uri, "int a;", 1⟩)]

/-- It is changed to a text and a version and then left alone for some time. -/
def round (text : String) (version : Int) (milliseconds : Nat) : Round :=
  ⟨world, .changes ⟨uri, text, version⟩, text, version, [(world, .elapse milliseconds)]⟩

/-- It is opened and changed once. -/
def once : List (World × Input) := start ++ [(world, (round "int b;" 2 1500).input)]

/-- It is opened and changed twice, the second time before the quiet period is over. -/
def twice : List (World × Input) :=
  start ++ ([round "int b;" 2 1000] ++ [round "int c;" 3 1500]).flatMap Round.inputs

/-- What Clang says about a document with a text. -/
def finding (text : String) : Finding := ⟨⟨⟨0, 0⟩, ⟨0, 6⟩⟩, .warning, none, text, "Clang"⟩

end Typing

/-- A change after which a document is left alone leads to a pass over it; and of two changes the
second does, if it comes early enough. In both passes Clang reads the text of the latest change. -/
theorem pass_after_typing :
    (∃ (before : Reaction) (later : List Waiting) (r : PassRecord),
      ((Course.of Typing.once).connection.take Typing.world (.elapse 1500)).events =
        before.events ++ ((before.session.wake Typing.world ⟨1500, Typing.uri, 2⟩).events ++
          (Session.wakeEach Typing.world
            (before.session.wake Typing.world ⟨1500, Typing.uri, 2⟩).session later).events) ∧
      (before.session.wake Typing.world ⟨1500, Typing.uri, 2⟩).events.filterMap Event.pass? = [r] ∧
      r.document = ⟨Typing.uri, "int b;", 2⟩ ∧
      Typing.finding "int b;" ∈ r.outcome.files.getD "/ws/a.c" []) ∧
    ∃ record, passesOver (Course.of Typing.twice).trace Typing.uri =
        passesOver (Course.of Typing.start).trace Typing.uri ++ [record] ∧
      record.document = ⟨Typing.uri, "int c;", 3⟩ ∧
      Typing.finding "int c;" ∈ record.outcome.files.getD "/ws/a.c" [] := by
  have hstart : (Course.of Typing.start).connection.phase = .running ∧
      (Course.of Typing.start).connection.session.waiting = [] ∧
      (Course.of Typing.start).connection.session.now = 0 ∧
      (Course.of Typing.start).connection.session.versions.get? Typing.uri.text = some 1 ∧
      ((Course.of Typing.start).connection.session.settingsOf Typing.world Typing.uri).1.run =
        .onType ∧
      Typing.uri.filePath? = some "/ws/a.c" ∧
      Typing.world.scratch.CanCopy "/ws/a.c" "int b;" ∧
      Typing.world.scratch.CanCopy "/ws/a.c" "int c;" := by
    decide +kernel
  obtain ⟨hrunning, hwaiting, hnow, hversion, htype, hfile, hcopy, hcopy'⟩ := hstart
  obtain ⟨hturn, hburst⟩ := debounced_pass_spec hrunning
  constructor
  · have honce : (Typing.round "int b;" 2 1500).input.change? = some ⟨Typing.uri, "int b;", 2⟩ ∧
        (Course.of Typing.once).connection.phase ≠ .ended ∧
        (Course.of Typing.once).connection.session.now = 0 ∧
        (Course.of Typing.once).connection.session.document? Typing.uri =
          some ⟨Typing.uri, "int b;", 2⟩ ∧
        (Course.of Typing.once).connection.session.versions.get? Typing.uri.text = some 1 ∧
        (((Course.of Typing.once).connection.take Typing.world
          (.elapse 1500)).events.filterMap Event.pass?).map (·.foundIn Typing.world) =
          [[("/ws/a.c", Typing.finding "int b;")]] := by
      decide +kernel
    obtain ⟨hchange, honce⟩ := honce
    obtain ⟨c, hc⟩ : ∃ c, c = (Course.of Typing.once).connection := ⟨_, rfl⟩
    rw [← hc] at honce ⊢
    obtain ⟨hphase, hnow', hdocument, hlast, hfound⟩ := honce
    have hwaits : (⟨1500, Typing.uri, 2⟩ : Waiting) =
        (Course.of Typing.start).connection.session.waitingFor ⟨Typing.uri, "int b;", 2⟩ := by
      unfold Session.waitingFor
      rw [hnow]
      rfl
    have hbegun : c.session.now < 1500 := by
      rw [hnow']
      decide
    have hover : 1500 ≤ c.session.now + 1500 := Nat.le_add_left _ _
    obtain ⟨before, later, hbefore, hevents, hrun, -⟩ :=
      hturn hchange htype hc hphase hwaits hbegun hover Typing.world
    rw [hwaiting] at hbefore
    have hbefore : before = (c.session.tick 1500).quiet := hbefore
    have hwakes : before.session.Wakes Typing.world ⟨1500, Typing.uri, 2⟩ := by
      rw [hbefore]
      refine ⟨⟨Typing.uri, "int b;", 2⟩, "/ws/a.c", hdocument, rfl, fun last h => ?_, hfile,
        fun _ => hcopy⟩
      obtain rfl := Option.some.inj (hlast.symm.trans h)
      decide
    obtain ⟨r, hr, hd, -, -, houtcome⟩ := hrun hwakes
    -- It is the only pass of the turn, so that what was found in it is known.
    have hmem : r.foundIn Typing.world ∈ [[("/ws/a.c", Typing.finding "int b;")]] := by
      rw [← hfound, hevents, List.filterMap_append, List.filterMap_append, hr]
      simp
    rw [hbefore] at hd
    exact ⟨before, later, r, hevents, hr, Option.some.inj (hd.symm.trans hdocument),
      PassRecord.mem_files_of_foundIn houtcome (List.mem_singleton.1 hmem)⟩
  · have hrounds : Burst Typing.uri [Typing.round "int b;" 2 1000]
        (Typing.round "int c;" 3 1500) := by
      constructor <;> decide +kernel
    have hawaits : (Course.of Typing.start).connection.session.Awaits Typing.uri
        (([Typing.round "int b;" 2 1000] ++ [Typing.round "int c;" 3 1500]).map
          Round.version) := by
      constructor
      · intro last hlast
        obtain rfl := Option.some.inj (hversion.symm.trans hlast)
        decide
      · rw [hwaiting]
        exact fun _ hp => absurd hp List.not_mem_nil
    have htype : ∀ r ∈ ([Typing.round "int b;" 2 1000] ++ [Typing.round "int c;" 3 1500]).head?,
        ((Course.of Typing.start).connection.session.settingsOf r.world Typing.uri).1.run =
          .onType := by
      intro r hr
      obtain rfl := Option.some.inj hr
      exact htype
    -- Time passes after the last change in one input only.
    have hworld : ∀ w, (Typing.round "int c;" 3 1500).EndsIn w → w = Typing.world := by
      rintro w ⟨first, milliseconds, rest, hafter, -⟩
      have hmem : (w, Input.elapse milliseconds) ∈ (Typing.round "int c;" 3 1500).after := by
        rw [hafter]
        simp
      exact (Prod.mk.inj (List.mem_singleton.1 hmem)).1
    obtain ⟨w, record, hends, hpasses, hrecord, -, -, houtcome⟩ :=
      hburst hrounds htype hawaits hfile fun w hends => by rw [hworld w hends]; exact hcopy'
    obtain rfl := hworld w hends
    have hfound : (passesOver (Course.of Typing.twice).trace Typing.uri).getLast?.map
        (·.foundIn Typing.world) = some [("/ws/a.c", Typing.finding "int c;")] := by
      decide +kernel
    have hlast : (passesOver (Course.of Typing.twice).trace Typing.uri).getLast? = some record := by
      unfold Typing.twice
      rw [hpasses, List.getLast?_concat]
    rw [hlast] at hfound
    exact ⟨record, hpasses, hrecord,
      PassRecord.mem_files_of_foundIn houtcome (Option.some.inj hfound)⟩

namespace Reopened

/-- A document is opened and changed, and before the quiet period is over it is closed and opened
again. -/
def start : List (World × Input) :=
  Typing.start ++ [(Typing.world, .changes ⟨Typing.uri, "int b;", 3⟩),
    (Typing.world, .elapse 700), (Typing.world, .closes Typing.uri),
    (Typing.world, .opens ⟨Typing.uri, "int a;", 1⟩)]

/-- It is changed three times, the last time before the quiet period is over. -/
def rounds : List Round :=
  [Typing.round "int c;" 2 0, Typing.round "int d;" 3 1000, Typing.round "int e;" 4 1600]

/-- A document that is no file. -/
def nameless : Uri := ⟨"untitled:Untitled-1"⟩

/-- It is opened and changed, and then left alone. -/
def edited : List (World × Input) :=
  [Typing.introduction, (Typing.world, .opens ⟨nameless, "int a;", 1⟩),
    (Typing.world, .changes ⟨nameless, "int b;", 2⟩), (Typing.world, .elapse 1600)]

end Reopened

/-- A document that is no file has no pass when the quiet period is over, though it is open at the
version of its change and had none; and a burst of changes may lead to two passes, if a pass waits
that was set off before the document was closed. -/
theorem typing_without_one_pass :
    ((Course.of Reopened.edited).connection.session.document? Reopened.nameless =
        some ⟨Reopened.nameless, "int b;", 2⟩ ∧
      (passesOver (Course.of Reopened.edited).trace Reopened.nameless).length = 0) ∧
    Burst Typing.uri [Typing.round "int c;" 2 0, Typing.round "int d;" 3 1000]
      (Typing.round "int e;" 4 1600) ∧
    (Course.of Reopened.start).connection.session.versions.get? Typing.uri.text = some 1 ∧
    (passesOver (Course.of (Reopened.start ++ Reopened.rounds.flatMap Round.inputs)).trace
        Typing.uri).map (·.document.version) =
      (passesOver (Course.of Reopened.start).trace Typing.uri).map (·.document.version) ++
        [3, 4] := by
  refine ⟨by decide +kernel, ?_, by decide +kernel⟩
  constructor <;> decide +kernel

end LintRelay.Server
