import LintRelay.Proofs.Publication
import LintRelay.Proofs.Server.Course
import LintRelay.Proofs.Server.Trace

/-!
# What the editor shows

The editor shows for each URI the set that was published last. Here that set is compared with what
the open documents reported, along every course of a server.

The invariant is `Consistent`: the ledger holds the reports that stand, these are of open documents,
and what is shown for the URI of a file merges them, unless it was taken back. Each act
keeps it (`Consistent.act`), and so it holds of all courses (`Consistent.course`). What is shown
then follows, finding by finding (`Consistent.mem_shown`).

Two files can have one URI, since `//a` and `/a` are different identities. All is said of a file
whose URI no other file of the trace has (`Sole`).
-/

namespace LintRelay.Server

/-! ## Sending publications -/

/-- The message for a publication publishes its set for the URI of its file. -/
theorem publishes?_publication? (document : String) (version : Int) (p : Publication) (u : Uri) :
    (Session.publication? document version p).bind (·.publishes? u) =
      if Uri.ofFilePath? p.1 = some u then some p.2 else none := by
  unfold Session.publication?
  cases Uri.ofFilePath? p.1 with
  | none => rfl
  | some other => simp [Message.publishes?]

/-- So does the message for what is left of a set, unless the URI is that of the closed document. -/
theorem publishes?_remainder? {uri u : Uri} (h : uri ≠ u) (p : Publication) :
    (Session.remainder? uri p).bind (·.publishes? u) =
      if Uri.ofFilePath? p.1 = some u then some p.2 else none := by
  unfold Session.remainder?
  cases Uri.ofFilePath? p.1 with
  | none => rfl
  | some other =>
    rw [Option.bind_some]
    by_cases hother : other = uri
    · rw [if_pos hother, Option.bind_none, if_neg]
      rw [hother]
      simpa using h
    · rw [if_neg hother]
      simp [Message.publishes?]

/-- Sending the right publications leads from a set that merges the reports on a file to one that
merges the new reports. -/
theorem Displays.relay {trace : List Event} {file : String} {u : Uri} {old new : Ledger}
    {publications : List Publication} (h : Displays trace u (old.Merges file))
    (hrelays : Ledger.Relays old new publications) (hu : Uri.ofFilePath? file = some u)
    (hsole : ∀ p ∈ publications, Uri.ofFilePath? p.1 = some u → p.1 = file)
    {send : Publication → Option Message}
    (hsend : ∀ p, (send p).bind (·.publishes? u) =
      if Uri.ofFilePath? p.1 = some u then some p.2 else none)
    {others : List Message} (hothers : ∀ m ∈ others, m.publishes? u = none) :
    Displays (trace ++ (publications.filterMap send ++ others).map .sent) u (new.Merges file) := by
  refine h.send ?_ ?_
  · intro m hm set hset
    rcases List.mem_append.1 hm with hm | hm
    · obtain ⟨p, hp, hpm⟩ := List.mem_filterMap.1 hm
      have hsent := hsend p
      rw [hpm, Option.bind_some, hset] at hsent
      split at hsent
      · next hpu =>
        rw [Option.some.inj hsent, ← hsole p hp hpu]
        exact hrelays.sent p hp
      · exact absurd hsent (Option.some_ne_none set)
    · rw [hothers m hm] at hset
      exact absurd hset.symm (Option.some_ne_none set)
  · -- Had the file been among the publications, a message would have gone to its URI.
    intro hnone set hset
    refine hset.congr (hrelays.unsent file fun hmem => ?_)
    obtain ⟨p, hp, rfl⟩ := List.mem_map.1 hmem
    have hsent := hsend p
    rw [if_pos hu] at hsent
    obtain ⟨m, hm, hset⟩ := Option.bind_eq_some_iff.1 hsent
    rw [hnone m (List.mem_append_left _ (List.mem_filterMap.2 ⟨p, hp, hm⟩))] at hset
    exact absurd hset.symm (Option.some_ne_none p.2)

/-! ## The invariant -/

/-- A session and all that was done to get there tell the same. -/
structure Consistent (s : Session) (trace : List Event) : Prop where
  /-- What has a latest pass is an open document. -/
  opened : ∀ {uri : Uri} {r : PassRecord}, latestPass trace uri = some r →
    ∃ d, s.document? uri = some d
  /-- A pass over a document reports for the file that its URI names. -/
  placed : ∀ {uri : Uri} {r : PassRecord}, latestPass trace uri = some r →
    identityOf? uri = some r.outcome.document
  /-- The ledger holds the reports that stand. -/
  ledger : ∀ {document : String} {files : Table (List Finding)},
    s.ledger.reports.get? document = some files ↔
      ∃ uri r, Stands trace uri r ∧ r.outcome.document = document ∧ r.outcome.files = files
  /-- For the URI of a file a set is shown that merges the reports on it. -/
  displays : ∀ {file : String} {u : Uri}, Uri.ofFilePath? file = some u → Sole trace file u →
    Displays trace u (s.ledger.Merges file)

namespace Consistent

variable {s : Session} {trace : List Event}

/-- At first nothing is open, reported or shown. -/
theorem empty : Consistent .empty [] where
  opened h := by simp [latestPass, latest?] at h
  placed h := by simp [latestPass, latest?] at h
  ledger := by simp [Session.empty, Ledger.empty, Stands, latestPass, latest?]
  displays _ _ := Ledger.merges_empty.2 rfl

/-- The files that a document reported on, as far as its report stands, are files of the trace. -/
theorem mem_filesOf_of_reportedOn (h : Consistent s trace) {document file : String}
    (hfile : file ∈ s.ledger.reportedOn document) : file ∈ filesOf trace := by
  obtain ⟨files, hfiles⟩ : ∃ files, s.ledger.reports.get? document = some files := by
    refine Option.ne_none_iff_exists'.1 fun hnone => ?_
    unfold Ledger.reportedOn Table.getD at hfile
    rw [hnone] at hfile
    exact absurd hfile List.not_mem_nil
  obtain ⟨uri, r, hstands, -, rfl⟩ := h.ledger.1 hfiles
  unfold Ledger.reportedOn at hfile
  rw [Table.getD_of_get? hfiles] at hfile
  exact mem_filesOf (passed_of_latestPass hstands.1) (.inr hfile)

/-! ### Acts that publish nothing -/

/-- What leaves documents and ledger alone and publishes nothing keeps the invariant. -/
theorem aside (h : Consistent s trace) {s' : Session} (messages : List Message)
    (hdocuments : s'.documents = s.documents) (hledger : s'.ledger = s.ledger)
    (hmessages : ∀ m ∈ messages, ∀ u, m.publishes? u = none) :
    Consistent s' (trace ++ messages.map .sent) where
  opened hpass := by
    rw [latestPass_sent] at hpass
    unfold Session.document?
    rw [hdocuments]
    exact h.opened hpass
  placed hpass := by
    rw [latestPass_sent] at hpass
    exact h.placed hpass
  ledger := by
    simp only [stands_sent, hledger]
    exact h.ledger
  displays hu hsole := by
    rw [hledger]
    refine (h.displays hu hsole.of_append).send ?_ fun _ _ hset => hset
    intro m hm set hset
    rw [hmessages m hm] at hset
    exact absurd hset (Option.some_ne_none set).symm

/-- What leaves documents and ledger alone, without events, keeps the invariant. -/
theorem quiet (h : Consistent s trace) {s' : Session} (hdocuments : s'.documents = s.documents)
    (hledger : s'.ledger = s.ledger) : Consistent s' (trace ++ []) :=
  h.aside [] hdocuments hledger fun _ hm => absurd hm List.not_mem_nil

/-- A note keeps the invariant. -/
theorem note (h : Consistent s trace) (n : Note) : Consistent s (trace ++ [.noted n]) where
  opened hpass := by
    rw [latestPass_noted] at hpass
    exact h.opened hpass
  placed hpass := by
    rw [latestPass_noted] at hpass
    exact h.placed hpass
  ledger := by
    simp only [stands_noted]
    exact h.ledger
  displays hu hsole := (h.displays hu hsole.of_append).noted n

/-- Keeping the text of a document keeps the invariant. -/
theorem store (h : Consistent s trace) (d : Document) : Consistent (s.store d).session trace where
  opened {uri r} hpass := by
    change ∃ d', (s.documents.insert d.uri.text d).get? uri.text = some d'
    simp only [Table.get?_insert]
    split
    · exact ⟨d, rfl⟩
    · exact h.opened hpass
  placed := h.placed
  ledger := h.ledger
  displays := h.displays

/-! ### Passes -/

/-- After a pass, the reports that stand are its own and those that the ledger holds for other
files. -/
theorem reports_passed (h : Consistent s trace) {r : PassRecord}
    (hid : identityOf? r.document.uri = some r.outcome.document) {document : String}
    {files : Table (List Finding)} :
    (if r.outcome.document = document then some r.outcome.files
      else s.ledger.reports.get? document) = some files ↔
      ∃ uri r', Stands (trace ++ [.passed r]) uri r' ∧ r'.outcome.document = document ∧
        r'.outcome.files = files := by
  simp only [stands_passed]
  split
  · next hdocument =>
    constructor
    · intro hfiles
      exact ⟨_, r, .inl ⟨rfl, rfl⟩, hdocument, Option.some.inj hfiles⟩
    · -- Another report for the same file does not stand.
      rintro ⟨uri, r', ⟨-, rfl⟩ | ⟨hother, hstands⟩, hdocument', rfl⟩
      · rfl
      · refine absurd ?_ hother
        rw [hid, h.placed hstands.1, hdocument, hdocument']
  · next hdocument =>
    rw [h.ledger]
    constructor
    · rintro ⟨uri, r', hstands, rfl, rfl⟩
      refine ⟨uri, r', .inr ⟨?_, hstands⟩, rfl, rfl⟩
      rw [hid, h.placed hstands.1]
      simpa using hdocument
    · rintro ⟨uri, r', ⟨-, rfl⟩ | ⟨-, hstands⟩, hdocument', rfl⟩
      · exact absurd hdocument' hdocument
      · exact ⟨uri, r', hstands, hdocument', rfl⟩

/-- The files that a pass is published for are files of the trace with the pass. -/
theorem mem_filesOf_of_reconcile (h : Consistent s trace) {v : Visiting} {r : PassRecord}
    {file : String} (hfile : file ∈ (s.ledger.reconcile v r.outcome).2.map Prod.fst) :
    file ∈ filesOf (trace ++ [.passed r]) := by
  unfold filesOf
  rw [List.flatMap_append]
  rcases Ledger.mem_reconcile_files.1 hfile with hnew | hbefore | hdocument
  · exact List.mem_append_right _ (mem_filesOf List.mem_cons_self (.inr hnew))
  · exact List.mem_append_left _ (h.mem_filesOf_of_reportedOn hbefore)
  · exact List.mem_append_right _ (mem_filesOf List.mem_cons_self (.inl hdocument))

/-- Taking in a pass over an open document keeps the invariant. -/
theorem conclude (h : Consistent s trace) (w : World) (r : PassRecord)
    (hopen : ∃ d, s.document? r.document.uri = some d)
    (hid : identityOf? r.document.uri = some r.outcome.document) :
    Consistent (s.conclude w r.document r.outcome).session
      (trace ++ .passed r :: (s.conclude w r.document r.outcome).events) := by
  rw [Session.conclude_events, List.append_cons]
  constructor
  case opened =>
    intro uri r' hpass
    rw [latestPass_sent, latestPass_passed] at hpass
    split at hpass
    · next huri => exact huri ▸ hopen
    · exact h.opened hpass
  case placed =>
    intro uri r' hpass
    rw [latestPass_sent, latestPass_passed] at hpass
    split at hpass
    · next huri =>
      obtain rfl := Option.some.inj hpass
      exact huri ▸ hid
    · exact h.placed hpass
  case ledger =>
    intro document files
    have hget : (s.conclude w r.document r.outcome).session.ledger.reports.get? document =
        if r.outcome.document = document then some r.outcome.files
        else s.ledger.reports.get? document := Table.get?_insert _ _ _ _
    simp only [hget, stands_sent]
    exact h.reports_passed hid
  case displays =>
    intro file u hu hsole
    have hold : Displays trace u (s.ledger.Merges file) :=
      h.displays hu hsole.of_append.of_append
    refine (hold.passed r).relay (s.ledger.reconcile_relays w.visiting r.outcome) hu
      (fun p hp => ?_) (publishes?_publication? _ _ · u) (fun m hm => ?_)
    · exact hsole.of_append p.1 (h.mem_filesOf_of_reconcile (List.mem_map_of_mem hp))
    · -- What else is sent shows the errors of the pass.
      obtain ⟨text, -, rfl⟩ := Option.map_eq_some_iff.1 (Option.mem_toList.1 hm)
      rfl

/-! ### Closing -/

/-- After a document was closed, the reports that stand are those that the ledger holds for other
files. -/
theorem reports_closed (h : Consistent s trace) {uri : Uri} {document : String}
    {files : Table (List Finding)} :
    (if identityOf? uri = some document then none else s.ledger.reports.get? document) =
        some files ↔
      ∃ uri' r, Stands (trace ++ [.closed uri]) uri' r ∧ r.outcome.document = document ∧
        r.outcome.files = files := by
  simp only [stands_closed]
  split
  · next hdocument =>
    constructor
    · intro hfiles
      exact absurd hfiles.symm (Option.some_ne_none files)
    · rintro ⟨uri', r, ⟨hother, hstands⟩, hdocument', -⟩
      refine absurd ?_ hother
      rw [hdocument, h.placed hstands.1, hdocument']
  · next hdocument =>
    rw [h.ledger]
    constructor
    · rintro ⟨uri', r, hstands, rfl, rfl⟩
      refine ⟨uri', r, ⟨?_, hstands⟩, rfl, rfl⟩
      rw [h.placed hstands.1]
      exact hdocument
    · rintro ⟨uri', r, ⟨-, hstands⟩, hdocument', hfiles⟩
      exact ⟨uri', r, hstands, hdocument', hfiles⟩

/-- Closing a document, and publishing what its end changes, keeps the invariant. -/
theorem retire (h : Consistent s trace) {uri : Uri} {ledger : Ledger}
    {publications : List Publication} (hrelays : Ledger.Relays s.ledger ledger publications)
    (hget : ∀ document, ledger.reports.get? document =
      if identityOf? uri = some document then none else s.ledger.reports.get? document)
    (hfiles : ∀ p ∈ publications, p.1 ∈ filesOf trace) :
    Consistent { s.evict uri with ledger }
      (trace ++ ((publications.filterMap (Session.remainder? uri)
        ++ [Message.publish uri [] none]).map .sent ++ [.closed uri])) := by
  rw [← List.append_assoc]
  constructor
  case opened =>
    intro uri' r hpass
    rw [latestPass_closed, latestPass_sent] at hpass
    split at hpass
    · exact absurd hpass.symm (Option.some_ne_none r)
    · next huri =>
      change ∃ d, (s.documents.erase uri.text).get? uri'.text = some d
      simp only [Table.get?_erase, Uri.text_ne huri, if_false]
      exact h.opened hpass
  case placed =>
    intro uri' r hpass
    rw [latestPass_closed, latestPass_sent] at hpass
    split at hpass
    · exact absurd hpass.symm (Option.some_ne_none r)
    · exact h.placed hpass
  case ledger =>
    intro document files
    rw [hget, h.reports_closed]
    simp only [stands_closed, stands_sent]
  case displays =>
    intro file u hu hsole
    by_cases huri : uri = u
    · -- The last message for this URI is the empty set, whatever the ledger holds.
      subst huri
      rw [List.map_append, ← List.append_assoc]
      exact displays_closed _ uri none _
    · have hsole : Sole trace file u := hsole.of_append.of_append
      refine ((h.displays hu hsole).relay hrelays hu (fun p hp => hsole p.1 (hfiles p hp))
        (publishes?_remainder? huri) ?_).closed huri
      intro m hm
      obtain rfl := List.mem_singleton.1 hm
      exact if_neg huri

/-- Closing a document keeps the invariant. -/
theorem close (h : Consistent s trace) (w : World) (uri : Uri) :
    Consistent (s.closed w uri).session (trace ++ (s.closed w uri).events) := by
  unfold Session.closed
  cases hfile : uri.filePath? with
  | none =>
    refine h.retire ⟨fun p hp => absurd hp List.not_mem_nil, fun _ _ _ => rfl⟩ (fun document => ?_)
      fun p hp => absurd hp List.not_mem_nil
    unfold identityOf?
    rw [hfile]
    rfl
  | some file =>
    refine h.retire (s.ledger.forget_relays w.visiting (documentIdentity file))
      (fun document => ?_) ?_
    · change (s.ledger.reports.erase (documentIdentity file)).get? document = _
      simp [identityOf?, hfile]
    · intro p hp
      have hp : p.1 ∈ (s.ledger.forget w.visiting (documentIdentity file)).2.map Prod.fst :=
        List.mem_map_of_mem hp
      rw [Ledger.forget_files] at hp
      exact h.mem_filesOf_of_reportedOn hp

/-! ### Courses -/

/-- Every act keeps the invariant. -/
theorem act (h : Consistent s trace) (hkeyed : s.Keyed) {w : World} {r : Reaction}
    (hact : Act w s r) : Consistent r.session (trace ++ r.events) := by
  cases hact with
  | introduce i _ => exact h.quiet rfl rfl
  | greet =>
    refine h.aside _ rfl rfl fun m hm u => ?_
    rcases List.mem_append.1 hm with hm | hm
    · split at hm
      · obtain rfl := List.mem_singleton.1 hm
        rfl
      · exact absurd hm List.not_mem_nil
    · obtain rfl := List.mem_singleton.1 hm
      rfl
  | store d => exact (h.store d).note _
  | resolve uri =>
    unfold Session.settingsOf
    split
    · exact h.quiet rfl rfl
    · refine h.aside _ rfl rfl fun m hm u => ?_
      split at hm
      · obtain rfl := List.mem_singleton.1 hm
        rfl
      · exact absurd hm List.not_mem_nil
  | prepare _ _ _ =>
    unfold Session.lintersOf
    split
    · exact h.quiet rfl rfl
    · refine h.aside _ rfl rfl fun m hm u => ?_
      obtain ⟨l, -, hl⟩ := List.mem_filterMap.1 hm
      obtain ⟨e, -, rfl⟩ := Option.map_eq_some_iff.1 hl
      rfl
  | @perform uri file d settings linters shadow trigger forced hfile hdocument _ _ _ _ =>
    obtain rfl := hkeyed.uri_eq hdocument
    have hid := document_requestOf hfile d (workspaceRoot s.folders file) shadow settings trigger
    generalize Session.requestOf d file (workspaceRoot s.folders file) shadow settings trigger =
      request at hid
    exact h.conclude w
      ⟨d, forced, request, settings, linters, Pass.run linters request (w.runner request)⟩
      ⟨d, hdocument⟩ hid
  | decline _ _ _ _ _ => exact h.note _
  | await uri version => exact h.quiet rfl rfl
  | flush shared =>
    have hkept : Consistent (s.flush shared).session (trace ++ []) := h.quiet rfl rfl
    rw [List.append_nil] at hkept
    exact hkept.note .flushed
  | close uri => exact h.close w uri
  | elapse milliseconds => exact h.quiet rfl rfl

/-- The invariant holds of every course. -/
theorem course (inputs : List (World × Input)) :
    Consistent (Course.of inputs).connection.session (Course.of inputs).trace :=
  Course.keeps empty (fun _ hkeyed hact h => h.act hkeyed hact) (W := fun _ => True)
    fun _ _ => trivial

/-- What is shown for the URI of a file is what the standing reports say about it, unless the set
was taken back. -/
theorem mem_shown (h : Consistent s trace) {file : String} {u : Uri}
    (hu : Uri.ofFilePath? file = some u) (hsole : Sole trace file u) {x : Finding} :
    x ∈ shown trace u ↔ withdrawn trace u = false ∧
      ∃ uri r, Stands trace uri r ∧ x ∈ r.outcome.files.getD file [] := by
  have hdisplays := h.displays hu hsole
  unfold Displays at hdisplays
  cases hwithdrawn : withdrawn trace u with
  | true =>
    rw [hwithdrawn, if_pos rfl] at hdisplays
    simp [hdisplays]
  | false =>
    rw [hwithdrawn, if_neg Bool.false_ne_true] at hdisplays
    rw [hdisplays.mem, eq_self_iff_true, true_and]
    constructor
    · rintro ⟨document, hx⟩
      obtain ⟨files, hfiles, hx⟩ := Ledger.mem_report.1 hx
      obtain ⟨uri, r, hstands, -, rfl⟩ := h.ledger.1 hfiles
      exact ⟨uri, r, hstands, hx⟩
    · rintro ⟨uri, r, hstands, hx⟩
      exact ⟨r.outcome.document,
        Ledger.mem_report.2 ⟨_, h.ledger.2 ⟨uri, r, hstands, rfl, rfl⟩, hx⟩⟩

end Consistent

/-! ## A shared header

A run in which a source file reports on its header, and both are open until the header is closed. -/

namespace SharedHeader

/-- A world whose only linter reports one line of a header, whatever it is run on. -/
def world : World :=
  .installing "lizard" fun _ _ => ⟨some 0, "h.h:7: warning: m\n".toUTF8.toList, []⟩

/-- The source file. -/
def source : Uri := ⟨"file:///ws/a.c"⟩

/-- The header. -/
def header : Uri := ⟨"file:///ws/h.h"⟩

/-- What the source file reports on the header. -/
def finding : Finding := ⟨⟨⟨6, 0⟩, ⟨6, 1⟩⟩, .warning, some "Cyclomatic complexity", "m", "Lizard"⟩

/-- The editor introduces itself. -/
def introduce : Input :=
  .request "initialize" (some (.object
    [("capabilities", .object []), ("rootUri", .string "file:///ws")]))

/-- The source file is opened. -/
def opening : List (World × Input) := [(world, introduce), (world, .opens ⟨source, "", 1⟩)]

/-- The source file and the header are opened, and the header is closed. -/
def closing : List (World × Input) :=
  [(world, introduce), (world, .opens ⟨source, "", 1⟩), (world, .opens ⟨header, "", 1⟩),
    (world, .closes header)]

/-- What the latest pass over a document found is what it reports. -/
theorem report_of_found {inputs : List (World × Input)} (hworld : ∀ input ∈ inputs, input.1 = world)
    {uri : Uri} {file : String} {x : Finding}
    (h : (latestPass (Course.of inputs).trace uri).map (·.foundIn world) = some [(file, x)]) :
    ∃ r, latestPass (Course.of inputs).trace uri = some r ∧ x ∈ r.outcome.files.getD file [] := by
  obtain ⟨r, hpass, hfound⟩ := Option.map_eq_some_iff.1 h
  obtain ⟨input, hinput, houtcome⟩ := Course.outcome_eq_run (passed_of_latestPass hpass)
  rw [hworld input hinput] at houtcome
  exact ⟨r, hpass, PassRecord.mem_files_of_foundIn houtcome hfound⟩

end SharedHeader

/-! ## Findings of open documents -/

/-- Along every course, a finding that a document reported on a file in its latest pass is that of
an open document, and it is shown for the URI of the file exactly if the set of that URI was not
taken back since, and the report was not replaced through another URI of the document's file or
another report that stands holds the finding too. -/
theorem report_shown_iff (inputs : List (World × Input)) {file : String} {u : Uri}
    (hu : Uri.ofFilePath? file = some u) (hsole : Sole (Course.of inputs).trace file u)
    {uri : Uri} {r : PassRecord} (hpass : latestPass (Course.of inputs).trace uri = some r)
    {x : Finding} (hx : x ∈ r.outcome.files.getD file []) :
    (∃ d, (Course.of inputs).connection.session.document? uri = some d) ∧
    (x ∈ shown (Course.of inputs).trace u ↔ withdrawn (Course.of inputs).trace u = false ∧
      (superseded (Course.of inputs).trace uri = false ∨
        ∃ other r', Stands (Course.of inputs).trace other r' ∧
          x ∈ r'.outcome.files.getD file [])) := by
  have h := Consistent.course inputs
  refine ⟨h.opened hpass, ?_⟩
  rw [h.mem_shown hu hsole]
  refine and_congr_right fun _ => ⟨.inr, ?_⟩
  rintro (hsuperseded | hother)
  · exact ⟨uri, r, ⟨hpass, hsuperseded⟩, hx⟩
  · exact hother

/-- Closing a header takes back what an open source file reports on it. -/
theorem report_taken_back_with_header :
    ∃ r, latestPass (Course.of SharedHeader.closing).trace SharedHeader.source = some r ∧
      SharedHeader.finding ∈ r.outcome.files.getD "/ws/h.h" [] ∧
      (∃ d, (Course.of SharedHeader.closing).connection.session.document? SharedHeader.source =
        some d) ∧
      SharedHeader.finding ∉ shown (Course.of SharedHeader.closing).trace SharedHeader.header := by
  have hrun : Sole (Course.of SharedHeader.closing).trace "/ws/h.h" SharedHeader.header ∧
      withdrawn (Course.of SharedHeader.closing).trace SharedHeader.header = true ∧
      (latestPass (Course.of SharedHeader.closing).trace SharedHeader.source).map
        (·.foundIn SharedHeader.world) = some [("/ws/h.h", SharedHeader.finding)] := by
    decide +kernel
  obtain ⟨hsole, hwithdrawn, hfound⟩ := hrun
  have hu : Uri.ofFilePath? "/ws/h.h" = some SharedHeader.header := by decide +kernel
  obtain ⟨r, hpass, hx⟩ := SharedHeader.report_of_found (by simp [SharedHeader.closing]) hfound
  obtain ⟨hopen, hiff⟩ := report_shown_iff SharedHeader.closing hu hsole hpass hx
  refine ⟨r, hpass, hx, hopen, fun hshown => ?_⟩
  rw [(hiff.1 hshown).1] at hwithdrawn
  exact absurd hwithdrawn Bool.false_ne_true

/-- Along every course, what is shown for the URI of a file was reported on it by an open document
in its latest pass; and nothing is shown once no open document reports on the file. -/
theorem shown_only_reported (inputs : List (World × Input)) {file : String} {u : Uri}
    (hu : Uri.ofFilePath? file = some u) (hsole : Sole (Course.of inputs).trace file u) :
    (∀ x ∈ shown (Course.of inputs).trace u, ∃ uri d r,
      (Course.of inputs).connection.session.document? uri = some d ∧
      latestPass (Course.of inputs).trace uri = some r ∧ x ∈ r.outcome.files.getD file []) ∧
    ((∀ uri d r, (Course.of inputs).connection.session.document? uri = some d →
        latestPass (Course.of inputs).trace uri = some r → r.outcome.files.getD file [] = []) →
      shown (Course.of inputs).trace u = []) := by
  have h := Consistent.course inputs
  have hreported : ∀ x ∈ shown (Course.of inputs).trace u, ∃ uri d r,
      (Course.of inputs).connection.session.document? uri = some d ∧
      latestPass (Course.of inputs).trace uri = some r ∧ x ∈ r.outcome.files.getD file [] := by
    intro x hx
    obtain ⟨-, uri, r, hstands, hx⟩ := (h.mem_shown hu hsole).1 hx
    obtain ⟨d, hd⟩ := h.opened hstands.1
    exact ⟨uri, d, r, hd, hstands.1, hx⟩
  refine ⟨hreported, fun hclean => List.eq_nil_iff_forall_not_mem.2 fun x hx => ?_⟩
  obtain ⟨uri, d, r, hd, hpass, hx⟩ := hreported x hx
  rw [hclean uri d r hd hpass] at hx
  exact absurd hx List.not_mem_nil

/-- What is shown for a header when a source file is opened is what that file reports. -/
theorem report_shown_on_header :
    SharedHeader.finding ∈ shown (Course.of SharedHeader.opening).trace SharedHeader.header ∧
    ∃ uri d r, (Course.of SharedHeader.opening).connection.session.document? uri = some d ∧
      latestPass (Course.of SharedHeader.opening).trace uri = some r ∧
      SharedHeader.finding ∈ r.outcome.files.getD "/ws/h.h" [] := by
  have hrun : Sole (Course.of SharedHeader.opening).trace "/ws/h.h" SharedHeader.header ∧
      withdrawn (Course.of SharedHeader.opening).trace SharedHeader.header = false ∧
      superseded (Course.of SharedHeader.opening).trace SharedHeader.source = false ∧
      (latestPass (Course.of SharedHeader.opening).trace SharedHeader.source).map
        (·.foundIn SharedHeader.world) = some [("/ws/h.h", SharedHeader.finding)] := by
    decide +kernel
  obtain ⟨hsole, hwithdrawn, hsuperseded, hfound⟩ := hrun
  have hu : Uri.ofFilePath? "/ws/h.h" = some SharedHeader.header := by decide +kernel
  obtain ⟨r, hpass, hx⟩ := SharedHeader.report_of_found (by simp [SharedHeader.opening]) hfound
  have hshown : SharedHeader.finding ∈
      shown (Course.of SharedHeader.opening).trace SharedHeader.header :=
    ((Consistent.course _).mem_shown hu hsole).2
      ⟨hwithdrawn, SharedHeader.source, r, ⟨hpass, hsuperseded⟩, hx⟩
  exact ⟨hshown, (shown_only_reported SharedHeader.opening hu hsole).1 _ hshown⟩

end LintRelay.Server
