import LintRelay.Proofs.Identity
import LintRelay.Proofs.Server.Display
import LintRelay.Proofs.Server.Queue

/-!
# What is left of a closed document

The server keeps linters, versions and reports for documents. Here it is shown that it keeps them
for open documents only (`Tidy`), so that nothing of a closed one is left, whatever commands, saves,
builds and timers still ask for.

Linters and versions are kept by URI, and a closed URI loses them. Reports are kept by identity: the
ledger forgets the identity that the URI names when it is closed (`Session.get?_reports_closed`),
which is the one that its passes have reported for. Another open URI of the same file has reports of
its own again after its next pass, so that a report is only known to be that of some open document.
-/

namespace LintRelay.Server

/-! ## Open documents -/

/-- A document is open. -/
def Session.IsOpen (s : Session) (uri : Uri) : Prop := ∃ d, s.document? uri = some d

namespace Session

variable {s : Session} {uri : Uri}

/-- Keeping the text of a document closes none. -/
theorem IsOpen.store (h : s.IsOpen uri) (d : Document) : (s.store d).session.IsOpen uri := by
  obtain ⟨d', hd'⟩ := h
  unfold IsOpen
  change ∃ d'', (s.documents.insert d.uri.text d).get? uri.text = some d''
  simp only [Table.get?_insert]
  split
  · exact ⟨d, rfl⟩
  · exact ⟨d', hd'⟩

/-- A document that was closed is not open. -/
theorem document?_closed (w : World) (s : Session) (uri : Uri) :
    (s.closed w uri).session.document? uri = none := by
  change (s.documents.erase uri.text).get? uri.text = none
  simp

/-- The others stay open. -/
theorem IsOpen.closed (h : s.IsOpen uri) {w : World} {other : Uri} (hother : other ≠ uri) :
    (s.closed w other).session.IsOpen uri := by
  obtain ⟨d, hd⟩ := h
  have hkept : (s.documents.erase other.text).get? uri.text = some d := by
    simpa [Session.document?, Uri.text_ne hother] using hd
  exact ⟨d, hkept⟩

/-- When a document is closed, the ledger forgets the identity that its URI names, if it names one,
and no other. -/
theorem get?_reports_closed (w : World) (s : Session) (uri : Uri) (id : String) :
    (s.closed w uri).session.ledger.reports.get? id =
      if identityOf? uri = some id then none else s.ledger.reports.get? id := by
  unfold closed identityOf?
  cases uri.filePath? with
  | none => rfl
  | some file =>
    change (s.ledger.reports.erase (documentIdentity file)).get? id = _
    simp

end Session

/-! ## The invariant -/

/-- What is kept besides texts and settings is that of open documents. -/
structure Tidy (s : Session) : Prop where
  /-- Linters are kept for open documents. -/
  linters : ∀ {uri : Uri} {linters : List Linter}, s.linters.get? uri.text = some linters →
    s.IsOpen uri
  /-- Versions are kept for open documents. -/
  versions : ∀ {uri : Uri} {version : Int}, s.versions.get? uri.text = some version → s.IsOpen uri
  /-- Reports are kept for the files of open documents. -/
  reports : ∀ {id : String} {files : Table (List Finding)}, s.ledger.reports.get? id = some files →
    ∃ uri, s.IsOpen uri ∧ identityOf? uri = some id

namespace Tidy

variable {w : World} {s : Session}

/-- At first nothing is kept. -/
theorem empty : Tidy .empty where
  linters h := by simp [Session.empty] at h
  versions h := by simp [Session.empty] at h
  reports h := by simp [Session.empty, Ledger.empty] at h

/-- Keeping the text of a document. -/
theorem store (h : Tidy s) (d : Document) : Tidy (s.store d).session where
  linters hkept := (h.linters hkept).store d
  versions hkept := (h.versions hkept).store d
  reports hkept := by
    obtain ⟨uri, hopen, hid⟩ := h.reports hkept
    exact ⟨uri, hopen.store d, hid⟩

/-- Making the linters of an open document ready. -/
theorem prepare (h : Tidy s) {uri : Uri} (hopen : s.IsOpen uri) (settings : Settings)
    (root : String) : Tidy (s.lintersOf w uri settings root).2.session := by
  unfold Session.lintersOf
  split
  · exact h
  · refine ⟨fun {other linters} hkept => ?_, h.versions, h.reports⟩
    change (s.linters.insert uri.text (w.host.configure settings root)).get? other.text = _ at hkept
    simp only [Table.get?_insert] at hkept
    split at hkept
    · next htext =>
      obtain rfl : uri = other := congrArg Uri.mk htext
      exact hopen
    · exact h.linters hkept

/-- Taking in a pass over an open document, which reports for the file that its URI names. -/
theorem conclude (h : Tidy s) {d : Document} (hopen : s.IsOpen d.uri) {outcome : Outcome}
    (hid : identityOf? d.uri = some outcome.document) : Tidy (s.conclude w d outcome).session where
  linters := h.linters
  versions {other version} hkept := by
    change (s.versions.insert d.uri.text d.version).get? other.text = _ at hkept
    simp only [Table.get?_insert] at hkept
    split at hkept
    · next htext =>
      obtain rfl : d.uri = other := congrArg Uri.mk htext
      exact hopen
    · exact h.versions hkept
  reports {id files} hkept := by
    change (s.ledger.reports.insert outcome.document outcome.files).get? id = _ at hkept
    simp only [Table.get?_insert] at hkept
    split at hkept
    · next hdocument => exact ⟨d.uri, hopen, by rw [hid, hdocument]⟩
    · exact h.reports hkept

/-- Closing a document, open or not. -/
theorem close (h : Tidy s) (uri : Uri) : Tidy (s.closed w uri).session where
  linters {other linters} hkept := by
    change (s.linters.erase uri.text).get? other.text = _ at hkept
    simp only [Table.get?_erase] at hkept
    split at hkept
    · cases hkept
    · next htext => exact (h.linters hkept).closed fun heq => htext (congrArg Uri.text heq)
  versions {other version} hkept := by
    change (s.versions.erase uri.text).get? other.text = _ at hkept
    simp only [Table.get?_erase] at hkept
    split at hkept
    · cases hkept
    · next htext => exact (h.versions hkept).closed fun heq => htext (congrArg Uri.text heq)
  reports {id files} hkept := by
    rw [Session.get?_reports_closed] at hkept
    split at hkept
    · cases hkept
    · next hforgotten =>
      obtain ⟨other, hopen, hid⟩ := h.reports hkept
      -- The closed URI names a forgotten identity or none, so the report is that of another one.
      have hother : uri ≠ other := fun heq => hforgotten (by rw [heq, hid])
      exact ⟨other, hopen.closed hother, hid⟩

/-- Every act keeps the invariant. -/
theorem act (h : Tidy s) (hkeyed : s.Keyed) {r : Reaction} (hact : Act w s r) : Tidy r.session := by
  cases hact with
  | introduce i _ => exact ⟨h.linters, h.versions, h.reports⟩
  | greet => exact h
  | store d => exact h.store d
  | resolve uri =>
    obtain ⟨table, messages, hresolved, -⟩ := s.settingsOf_spec w uri
    rw [hresolved]
    exact ⟨h.linters, h.versions, h.reports⟩
  | @prepare uri file d settings hfile hdocument _ =>
    obtain rfl := hkeyed.uri_eq hdocument
    exact h.prepare ⟨d, hdocument⟩ settings (workspaceRoot s.folders file)
  | @perform uri file d settings linters shadow trigger forced hfile hdocument _ _ _ _ =>
    obtain rfl := hkeyed.uri_eq hdocument
    have hid := document_requestOf hfile d (workspaceRoot s.folders file) shadow settings trigger
    generalize Session.requestOf d file (workspaceRoot s.folders file) shadow settings trigger =
      request at hid
    have hconcluded : Tidy (s.conclude w d (Pass.run linters request (w.runner request))).session :=
      h.conclude ⟨d, hdocument⟩ hid
    exact hconcluded
  | decline _ _ _ _ _ => exact h
  | await uri version => exact ⟨h.linters, h.versions, h.reports⟩
  | flush shared =>
    -- Only reports outlive this, and texts do too.
    exact ⟨fun hkept => (by cases hkept), fun hkept => (by cases hkept), h.reports⟩
  | close uri => exact h.close uri
  | elapse milliseconds => exact ⟨h.linters, h.versions, h.reports⟩

/-- The invariant holds of every course. -/
theorem course (inputs : List (World × Input)) : Tidy (Course.of inputs).connection.session :=
  Course.keeps (I := fun s _ => Tidy s) empty (fun _ hkeyed hact h => h.act hkeyed hact)
    (W := fun _ => True) fun _ _ => trivial

/-- Nothing is kept for a document that is not open, and nothing is reported for its file unless
another URI of that file is open. -/
theorem nothing_kept (h : Tidy s) {uri : Uri} (hclosed : s.document? uri = none) :
    s.linters.get? uri.text = none ∧ s.versions.get? uri.text = none ∧
      ∀ id, identityOf? uri = some id →
        (∀ other, s.IsOpen other → identityOf? other ≠ some id) →
        s.ledger.reports.get? id = none := by
  have hnot : ¬ s.IsOpen uri := by
    rintro ⟨d, hd⟩
    rw [hclosed] at hd
    cases hd
  refine ⟨?_, ?_, fun id _ halone => ?_⟩
  · exact Option.eq_none_iff_forall_ne_some.2 fun linters hkept => hnot (h.linters hkept)
  · exact Option.eq_none_iff_forall_ne_some.2 fun version hkept => hnot (h.versions hkept)
  · refine Option.eq_none_iff_forall_ne_some.2 fun files hkept => ?_
    obtain ⟨other, hopen, hid⟩ := h.reports hkept
    exact halone other hopen hid

end Tidy

/-! ## Closing -/

/-- The session of a course after one more notice. -/
theorem Course.session_notice {inputs : List (World × Input)}
    (hrunning : (of inputs).connection.phase = .running) {method : String} {params : Option Json}
    {notice : Notice} (hread : Notice.read? method params = some notice) (w : World) :
    (of (inputs ++ [(w, .notice method params)])).connection.session =
      ((of inputs).connection.session.handle w notice).session := by
  rw [of_append]
  change ((of inputs).connection.take w (.notice method params)).connection.session = _
  rw [Connection.take_notice hrunning hread]
  rfl

/-- Along every course, linters and versions are kept for open documents only, and reports for the
files that open documents name. So nothing is kept for a document while it is not open, and nothing
is reported for its file unless another URI of that file is open. A document that the editor closes
is not open, and at that moment nothing is reported for its file at all. -/
theorem kept_only_while_open (inputs : List (World × Input)) :
    (∀ {uri : Uri} {linters : List Linter},
      (Course.of inputs).connection.session.linters.get? uri.text = some linters →
      ∃ d, (Course.of inputs).connection.session.document? uri = some d) ∧
    (∀ {uri : Uri} {version : Int},
      (Course.of inputs).connection.session.versions.get? uri.text = some version →
      ∃ d, (Course.of inputs).connection.session.document? uri = some d) ∧
    (∀ {id : String} {files : Table (List Finding)},
      (Course.of inputs).connection.session.ledger.reports.get? id = some files →
      ∃ uri file d, (Course.of inputs).connection.session.document? uri = some d ∧
        uri.filePath? = some file ∧ documentIdentity file = id) ∧
    (∀ {uri : Uri}, (Course.of inputs).connection.session.document? uri = none →
      (Course.of inputs).connection.session.linters.get? uri.text = none ∧
      (Course.of inputs).connection.session.versions.get? uri.text = none ∧
      ∀ id, identityOf? uri = some id →
        (∀ other d, (Course.of inputs).connection.session.document? other = some d →
          identityOf? other ≠ some id) →
        (Course.of inputs).connection.session.ledger.reports.get? id = none) ∧
    (∀ {w : World} {method : String} {params : Option Json} {uri : Uri},
      (Course.of inputs).connection.phase = .running →
      Notice.read? method params = some (.closed uri) →
      ∀ {s : Session}, s = (Course.of (inputs ++ [(w, .notice method params)])).connection.session →
      s.document? uri = none ∧ s.linters.get? uri.text = none ∧ s.versions.get? uri.text = none ∧
      ∀ id, identityOf? uri = some id → s.ledger.reports.get? id = none) := by
  have htidy := Tidy.course inputs
  refine ⟨htidy.linters, htidy.versions, fun {id files} hkept => ?_, fun {uri} hclosed => ?_, ?_⟩
  · obtain ⟨uri, ⟨d, hd⟩, hid⟩ := htidy.reports hkept
    obtain ⟨file, hfile, hid⟩ := Option.map_eq_some_iff.1 hid
    exact ⟨uri, file, d, hd, hfile, hid⟩
  · obtain ⟨hlinters, hversions, hreports⟩ := htidy.nothing_kept hclosed
    refine ⟨hlinters, hversions, fun id hid halone => hreports id hid ?_⟩
    rintro other ⟨d, hd⟩
    exact halone other d hd
  · rintro w method params uri hrunning hread s rfl
    have hafter := Tidy.course (inputs ++ [(w, .notice method params)])
    rw [Course.session_notice hrunning hread] at hafter ⊢
    have hnot : ((Course.of inputs).connection.session.closed w uri).session.document? uri = none :=
      Session.document?_closed w _ uri
    obtain ⟨hlinters, hversions, -⟩ := hafter.nothing_kept hnot
    refine ⟨hnot, hlinters, hversions, fun id hid => ?_⟩
    exact (Session.get?_reports_closed w _ uri id).trans (if_pos hid)

/-- A source file that is open has linters, a version and a report. When it is closed, nothing of
them is left. -/
theorem nothing_left_of_source :
    (∃ linters d, (Course.of SharedHeader.opening).connection.session.linters.get?
        SharedHeader.source.text = some linters ∧
      (Course.of SharedHeader.opening).connection.session.document? SharedHeader.source = some d) ∧
    (∃ files uri d, (Course.of SharedHeader.opening).connection.session.ledger.reports.get?
        "/ws/a.c" = some files ∧
      (Course.of SharedHeader.opening).connection.session.document? uri = some d) ∧
    ∀ s, s = (Course.of (SharedHeader.opening ++
        [(SharedHeader.world, .closes SharedHeader.source)])).connection.session →
      s.document? SharedHeader.source = none ∧
      s.linters.get? SharedHeader.source.text = none ∧
      s.versions.get? SharedHeader.source.text = none ∧ s.ledger.reports.get? "/ws/a.c" = none := by
  have hrun : (Course.of SharedHeader.opening).connection.phase = .running ∧
      ((Course.of SharedHeader.opening).connection.session.linters.get?
        SharedHeader.source.text).isSome ∧
      ((Course.of SharedHeader.opening).connection.session.ledger.reports.get? "/ws/a.c").isSome ∧
      identityOf? SharedHeader.source = some "/ws/a.c" := by
    decide +kernel
  obtain ⟨hrunning, hlinters, hreports, hid⟩ := hrun
  obtain ⟨hmade, -, hreported, -, hclosing⟩ := kept_only_while_open SharedHeader.opening
  refine ⟨?_, ?_, fun s hs => ?_⟩
  · obtain ⟨linters, hlinters⟩ := Option.isSome_iff_exists.1 hlinters
    obtain ⟨d, hd⟩ := hmade hlinters
    exact ⟨linters, d, hlinters, hd⟩
  · obtain ⟨files, hfiles⟩ := Option.isSome_iff_exists.1 hreports
    obtain ⟨uri, -, d, hd, -, -⟩ := hreported hfiles
    exact ⟨files, uri, d, hfiles, hd⟩
  · have hread : Notice.read? "textDocument/didClose" (some (.object [("textDocument", .object
        [("uri", .string SharedHeader.source.text)])])) = some (.closed SharedHeader.source) := rfl
    obtain ⟨hnot, hlinters, hversions, hreports⟩ := hclosing hrunning hread hs
    exact ⟨hnot, hlinters, hversions, hreports _ hid⟩

end LintRelay.Server
