import LintRelay.Proofs.Server.Residue
import LintRelay.Proofs.Server.Triggers

/-!
# Documents that do not depend on each other

All documents share one ledger, and what is published for a file is merged from their reports. Two
things are shown here in spite of that.

A message about one document leaves what is kept about all others as it was (`Local`), and so it
leaves the reports of all files but the one that its URI names.

The open documents may be analyzed in any order, if no two of them are URIs of one file. The session
that comes of it is told document by document and report by report, by what each analysis would have
done alone (`Session.validateEach_reports`), so that it does not depend on the order
(`Session.validateEach_perm`). The sets that are published on the way do, but for each URI the last
one merges the reports in the end, and whether there is one does not depend on the order either
(`Session.validateEach_shows`). So it is the same up to the order of findings that start at one
place, which is that in which reports are visited (`Session.validateEach_shown`).
-/

namespace LintRelay.Server

/-! ## Reports -/

namespace Session

variable {w : World} {s s' : Session} {uri : Uri}

/-- A pass over a document reports for the file that its URI names. -/
theorem identityOf?_record {file : String} (hfile : uri.filePath? = some file) (d : Document)
    (settings : Settings) (trigger : Trigger) (forced : Bool) :
    identityOf? uri = some (s.record w d file settings trigger forced).outcome.document := by
  have hid := document_requestOf hfile d (workspaceRoot s.folders file)
    ((w.shadow? settings file d.text).getD "") settings trigger
  unfold record
  dsimp only
  generalize requestOf d file (workspaceRoot s.folders file)
    ((w.shadow? settings file d.text).getD "") settings trigger = request at hid
  exact hid

/-- Analyzing a document leaves the reports of all files but its own as they were. -/
theorem get?_reports_validate (hkeyed : s.Keyed) (trigger : Trigger) (forced : Bool) {id : String}
    (hid : identityOf? uri ≠ some id) :
    (s.validate w uri trigger forced).session.ledger.reports.get? id =
      s.ledger.reports.get? id := by
  obtain ⟨file, d, hfile, hdocument⟩ | hnone := s.openFile_or uri
  · rw [s.validate_eq w trigger forced hfile hdocument hkeyed]
    dsimp only
    split
    · have hrecord := s.identityOf?_record (w := w) hfile d (s.settingsOf w uri).1 trigger forced
      have hother :
          (s.record w d file (s.settingsOf w uri).1 trigger forced).outcome.document ≠ id :=
        fun heq => hid (by rw [hrecord, heq])
      change (s.ledger.reports.insert _ _).get? id = _
      simp [hother]
    · rfl
  · rw [s.validate_quiet w trigger forced hnone]
    rfl

/-- In sessions that are alike for a document, analyzing it leaves the same report for a file, if
there was the same before. -/
theorem get?_reports_validate_congr (h : Alike uri s s') (hkeyed : s.Keyed) (hkeyed' : s'.Keyed)
    (trigger : Trigger) (forced : Bool) {id : String}
    (hreport : s'.ledger.reports.get? id = s.ledger.reports.get? id) :
    (s'.validate w uri trigger forced).session.ledger.reports.get? id =
      (s.validate w uri trigger forced).session.ledger.reports.get? id := by
  obtain ⟨file, d, hfile, hdocument⟩ | hnone := s.openFile_or uri
  · obtain rfl := hkeyed.uri_eq hdocument
    rw [s.validate_eq w trigger forced hfile hdocument hkeyed,
      s'.validate_eq w trigger forced hfile (h.document.trans hdocument) hkeyed',
      h.settingsOf_fst, h.runs, h.record]
    dsimp only
    split
    · change (s'.ledger.reports.insert _ _).get? id = (s.ledger.reports.insert _ _).get? id
      simp [hreport]
    · exact hreport
  · rw [s.validate_quiet w trigger forced hnone,
      s'.validate_quiet w trigger forced (hnone.imp_right h.document.trans)]
    exact hreport

end Session

/-- No two of some URIs name the same file. -/
def Separate (uris : List Uri) : Prop :=
  ∀ uri ∈ uris, ∀ other ∈ uris, ∀ id, identityOf? uri = some id → identityOf? other = some id →
    uri = other

namespace Separate

variable {first : Uri} {rest : List Uri}

/-- The rest of URIs that name different files do so. -/
theorem tail (h : Separate (first :: rest)) : Separate rest := fun uri huri other hother =>
  h uri (List.mem_cons_of_mem _ huri) other (List.mem_cons_of_mem _ hother)

/-- The first of them names another file than each of the rest, if it is not among them. -/
theorem head_ne (h : Separate (first :: rest)) (hfirst : first ∉ rest) {uri : Uri}
    (huri : uri ∈ rest) {id : String} (hid : identityOf? uri = some id) :
    identityOf? first ≠ some id := by
  intro hsame
  obtain rfl := h first List.mem_cons_self uri (List.mem_cons_of_mem _ huri) id hsame hid
  exact hfirst huri

/-- Whether URIs name different files does not depend on their order. -/
theorem perm {uris uris' : List Uri} (h : Separate uris) (hperm : uris'.Perm uris) :
    Separate uris' := fun uri huri other hother =>
  h uri (hperm.mem_iff.1 huri) other (hperm.mem_iff.1 hother)

/-- Two URIs that name different files. -/
theorem pair {second : Uri} (h : identityOf? first ≠ identityOf? second) :
    Separate [first, second] := by
  intro uri huri other hother id hid hid'
  have hsame : identityOf? uri = identityOf? other := hid.trans hid'.symm
  simp only [List.mem_cons, List.not_mem_nil, or_false] at huri hother
  rcases huri with rfl | rfl <;> rcases hother with rfl | rfl
  · rfl
  · exact absurd hsame h
  · exact absurd hsame.symm h
  · rfl

end Separate

namespace Session

variable {w : World} {s : Session} {uris : List Uri}

/-- Analyzing documents leaves the reports of all files but theirs as they were. -/
theorem validateEach_reports_others (hkeyed : s.Keyed) (trigger : Trigger) (forced : Bool)
    {id : String} (hother : ∀ uri ∈ uris, identityOf? uri ≠ some id) :
    (validateEach w trigger forced s uris).session.ledger.reports.get? id =
      s.ledger.reports.get? id := by
  induction uris generalizing s with
  | nil => rfl
  | cons first rest ih =>
    have hrest := ih (validate_keyed (w := w) hkeyed first trigger forced) fun uri huri =>
      hother uri (List.mem_cons_of_mem _ huri)
    exact hrest.trans (get?_reports_validate hkeyed trigger forced
      (hother first List.mem_cons_self))

/-- The report that is left for the file of each of some documents is the one that analyzing this
document alone would have left, if they name different files. -/
theorem validateEach_reports (hkeyed : s.Keyed) (hnodup : uris.Nodup) (hseparate : Separate uris)
    (trigger : Trigger) (forced : Bool) {uri : Uri} (huri : uri ∈ uris) {id : String}
    (hid : identityOf? uri = some id) :
    (validateEach w trigger forced s uris).session.ledger.reports.get? id =
      (s.validate w uri trigger forced).session.ledger.reports.get? id := by
  induction uris generalizing s with
  | nil => exact absurd huri List.not_mem_nil
  | cons first rest ih =>
    obtain ⟨hfirst, hnodup⟩ := List.nodup_cons.1 hnodup
    have hnext : (s.validate w first trigger forced).session.Keyed :=
      validate_keyed hkeyed first trigger forced
    rcases List.mem_cons.1 huri with rfl | huri
    · -- Its own turn is the first, and those after it leave the report alone.
      refine validateEach_reports_others hnext trigger forced fun other hother hsame => ?_
      exact hseparate.head_ne hfirst hother hsame hid
    · -- Its turn comes later, and the first one has changed nothing that its analysis reads.
      have hne : first ≠ uri := fun heq => hfirst (heq ▸ huri)
      refine (ih hnext hnodup hseparate.tail huri).trans ?_
      exact get?_reports_validate_congr (.of_validate hne hkeyed trigger forced) hkeyed hnext
        trigger forced
        (get?_reports_validate hkeyed trigger forced (hseparate.head_ne hfirst huri hid))

/-! ## The session in the end -/

/-- Analyzing documents changes nothing but what is kept about documents, besides their texts, and
the ledger. -/
theorem validateEach_frame (hkeyed : s.Keyed) (trigger : Trigger) (forced : Bool)
    (uris : List Uri) : ∃ settings linters versions ledger,
      (validateEach w trigger forced s uris).session =
        { s with settings, linters, versions, ledger } := by
  induction uris generalizing s with
  | nil => exact ⟨_, _, _, _, rfl⟩
  | cons first rest ih =>
    have hfirst : ∃ settings linters versions ledger,
        (s.validate w first trigger forced).session =
          { s with settings, linters, versions, ledger } := by
      obtain ⟨file, d, hfile, hdocument⟩ | hnone := s.openFile_or first
      · exact ⟨_, _, _, _, congrArg Reaction.session
          (s.validate_eq w trigger forced hfile hdocument hkeyed)⟩
      · rw [s.validate_quiet w trigger forced hnone]
        exact ⟨_, _, _, _, rfl⟩
    obtain ⟨settings, linters, versions, ledger, hrest⟩ :=
      ih (validate_keyed (w := w) hkeyed first trigger forced)
    obtain ⟨_, _, _, _, hfirst⟩ := hfirst
    refine ⟨settings, linters, versions, ledger, hrest.trans ?_⟩
    rw [hfirst]

/-- The session that comes of analyzing a document does not depend on the order in which reports are
visited. -/
theorem validate_visiting (hkeyed : s.Keyed) (v : Visiting) (uri : Uri) (trigger : Trigger)
    (forced : Bool) :
    (s.validate { w with visiting := v } uri trigger forced).session =
      (s.validate w uri trigger forced).session := by
  obtain ⟨file, d, hfile, hdocument⟩ | hnone := s.openFile_or uri
  · rw [s.validate_eq w trigger forced hfile hdocument hkeyed,
      s.validate_eq { w with visiting := v } trigger forced hfile hdocument hkeyed]
    rfl
  · rw [s.validate_quiet w trigger forced hnone, s.validate_quiet _ trigger forced hnone]

/-- Nor does the session that comes of analyzing documents. -/
theorem validateEach_visiting (hkeyed : s.Keyed) (v : Visiting) (trigger : Trigger) (forced : Bool)
    (uris : List Uri) :
    (validateEach { w with visiting := v } trigger forced s uris).session =
      (validateEach w trigger forced s uris).session := by
  induction uris generalizing s with
  | nil => rfl
  | cons first rest ih =>
    change
      (validateEach _ trigger forced (s.validate _ first trigger forced).session rest).session =
      (validateEach w trigger forced (s.validate w first trigger forced).session rest).session
    rw [validate_visiting hkeyed, ih (validate_keyed hkeyed first trigger forced)]

/-- The passes over a document that analyzing it runs do not depend on that order either. -/
theorem passesOver_visiting (hkeyed : s.Keyed) (v : Visiting) (uri : Uri) (trigger : Trigger)
    (forced : Bool) :
    passesOver (s.validate { w with visiting := v } uri trigger forced).events uri =
      passesOver (s.validate w uri trigger forced).events uri := by
  obtain ⟨file, d, hfile, hdocument⟩ | hnone := s.openFile_or uri
  · rw [passesOver_validate hkeyed hfile hdocument, passesOver_validate hkeyed hfile hdocument]
    rfl
  · rw [s.validate_quiet w trigger forced hnone, s.validate_quiet _ trigger forced hnone]

/-- Documents that name different files may be analyzed in any order. -/
theorem validateEach_perm {uris' : List Uri} (hperm : uris'.Perm uris) (hkeyed : s.Keyed)
    (hnodup : uris.Nodup) (hseparate : Separate uris) (trigger : Trigger) (forced : Bool) :
    (validateEach w trigger forced s uris').session =
      (validateEach w trigger forced s uris).session := by
  have hnodup' : uris'.Nodup := hperm.nodup_iff.2 hnodup
  -- Both are for each document what its own analysis leaves, or else what was there before.
  have halike : ∀ uri, Alike uri (validateEach w trigger forced s uris).session
      (validateEach w trigger forced s uris').session := by
    intro uri
    by_cases huri : uri ∈ uris
    · have huri' : uri ∈ uris' := hperm.mem_iff.2 huri
      exact (validateEach_alone hkeyed hnodup huri trigger forced).1.symm.trans
        (validateEach_alone hkeyed hnodup' huri' trigger forced).1
    · have huri' : uri ∉ uris' := fun h => huri (hperm.mem_iff.1 h)
      exact (validateEach_others hkeyed huri trigger forced).1.symm.trans
        (validateEach_others hkeyed huri' trigger forced).1
  have hreports : ∀ id, (validateEach w trigger forced s uris').session.ledger.reports.get? id =
      (validateEach w trigger forced s uris).session.ledger.reports.get? id := by
    intro id
    by_cases hnamed : ∃ uri ∈ uris, identityOf? uri = some id
    · obtain ⟨uri, huri, hid⟩ := hnamed
      rw [validateEach_reports hkeyed hnodup hseparate trigger forced huri hid,
        validateEach_reports hkeyed hnodup' (hseparate.perm hperm) trigger forced
          (hperm.mem_iff.2 huri) hid]
    · have hother : ∀ uri ∈ uris, identityOf? uri ≠ some id := fun uri huri hid =>
        hnamed ⟨uri, huri, hid⟩
      rw [validateEach_reports_others hkeyed trigger forced hother,
        validateEach_reports_others hkeyed trigger forced fun uri huri =>
          hother uri (hperm.mem_iff.1 huri)]
  -- Nothing else has changed, and tables that agree on every key are equal.
  obtain ⟨settings, linters, versions, ⟨reports⟩, heq⟩ :=
    validateEach_frame (w := w) hkeyed trigger forced uris
  obtain ⟨settings', linters', versions', ⟨reports'⟩, heq'⟩ :=
    validateEach_frame (w := w) hkeyed trigger forced uris'
  rw [heq, heq'] at halike hreports ⊢
  obtain rfl : settings' = settings := Table.eq_of_get? fun key => (halike ⟨key⟩).settings
  obtain rfl : linters' = linters := Table.eq_of_get? fun key => (halike ⟨key⟩).linters
  obtain rfl : versions' = versions := Table.eq_of_get? fun key => (halike ⟨key⟩).version
  obtain rfl : reports' = reports := Table.eq_of_get? hreports
  rfl

end Session

/-! ## What is published on the way -/

/-- The sets that publications have for a URI. -/
def setsFor (u : Uri) (publications : List Publication) : List (List Finding) :=
  publications.filterMap fun p => if Uri.ofFilePath? p.1 = some u then some p.2 else none

/-- There is none if the URI is that of no file that something is published for. -/
theorem setsFor_eq_nil {u : Uri} {publications : List Publication} :
    setsFor u publications = [] ↔
      ∀ file ∈ publications.map Prod.fst, Uri.ofFilePath? file ≠ some u := by
  unfold setsFor
  rw [List.filterMap_eq_nil_iff, List.forall_mem_map]
  refine forall_congr' fun p => imp_congr_right fun _ => ?_
  split
  · next hu => simp [hu]
  · next hu => simp [hu]

/-- Messages publish what each of them publishes. -/
theorem filterMap_shows?_sent (u : Uri) (messages : List Message) :
    (messages.map Event.sent).filterMap (Event.shows? u) =
      messages.filterMap (Message.publishes? u) :=
  List.filterMap_map

namespace Session

variable {w : World} {s s' : Session}

/-- Taking in a pass publishes for a URI what the ledger has for it. -/
theorem conclude_shows (d : Document) (outcome : Outcome) (u : Uri) :
    (s.conclude w d outcome).events.filterMap (Event.shows? u) =
      setsFor u (s.ledger.reconcile w.visiting outcome).2 := by
  have herrors : ((errorSummary? outcome.errors).map (Message.display .error)).toList.filterMap
      (Message.publishes? u) = [] := by
    cases errorSummary? outcome.errors <;> rfl
  rw [conclude_events, filterMap_shows?_sent, List.filterMap_append, herrors, List.append_nil,
    List.filterMap_filterMap]
  simp only [publishes?_publication?]
  rfl

/-- Looking up settings publishes nothing. -/
theorem settingsOf_shows (uri u : Uri) :
    (s.settingsOf w uri).2.events.filterMap (Event.shows? u) = [] := by
  unfold settingsOf
  split
  · rfl
  · dsimp only [send]
    split <;> rfl

/-- Looking up linters publishes nothing. -/
theorem lintersOf_shows (uri : Uri) (settings : Settings) (root : String) (u : Uri) :
    (s.lintersOf w uri settings root).2.events.filterMap (Event.shows? u) = [] := by
  unfold lintersOf
  split
  · rfl
  · change ((inactiveNotices _).map Event.sent).filterMap (Event.shows? u) = []
    rw [filterMap_shows?_sent, List.filterMap_eq_nil_iff]
    intro m hm
    obtain ⟨l, -, hl⟩ := List.mem_filterMap.1 hm
    obtain ⟨_, -, rfl⟩ := Option.map_eq_some_iff.1 hl
    rfl

/-- What analyzing an open file publishes for a URI is what the ledger has for it after the pass, if
one is run. -/
theorem validate_shows {uri : Uri} {file : String} {d : Document} (hkeyed : s.Keyed)
    (trigger : Trigger) (forced : Bool) (hfile : uri.filePath? = some file)
    (hdocument : s.document? uri = some d) (u : Uri) :
    (s.validate w uri trigger forced).events.filterMap (Event.shows? u) =
      if s.runs w d file (s.settingsOf w uri).1 forced then
        setsFor u (s.ledger.reconcile w.visiting
          (s.record w d file (s.settingsOf w uri).1 trigger forced).outcome).2
      else [] := by
  have hprepared : (if forced || !s.isCurrent uri d.version then
      (s.lintersOf w uri (s.settingsOf w uri).1 (workspaceRoot s.folders file)).2.events
    else []).filterMap (Event.shows? u) = [] := by
    split
    · exact lintersOf_shows uri _ _ u
    · rfl
  rw [s.validate_eq w trigger forced hfile hdocument hkeyed]
  dsimp only
  rw [List.filterMap_append, settingsOf_shows, List.nil_append, List.filterMap_append, hprepared,
    List.nil_append]
  split
  · rw [List.filterMap_cons_none (f := Event.shows? u) rfl, conclude_shows]
  · rfl

/-- Whether analyzing a document publishes something for a URI is the same in sessions that are
alike for the document and hold the same report for its file, in whatever order reports are
visited. -/
theorem validate_shows_congr {uri : Uri} (h : Alike uri s s')
    (hreport : ∀ id, identityOf? uri = some id →
      s'.ledger.reports.get? id = s.ledger.reports.get? id)
    (hkeyed : s.Keyed) (hkeyed' : s'.Keyed) (v : Visiting) (trigger : Trigger) (forced : Bool)
    (u : Uri) :
    (s'.validate { w with visiting := v } uri trigger forced).events.filterMap (Event.shows? u) =
        [] ↔
      (s.validate w uri trigger forced).events.filterMap (Event.shows? u) = [] := by
  obtain ⟨file, d, hfile, hdocument⟩ | hnone := s.openFile_or uri
  · have hrecord := s.identityOf?_record (w := w) hfile d (s.settingsOf w uri).1 trigger forced
    obtain rfl := hkeyed.uri_eq hdocument
    -- The order in which reports are visited is read by nothing but the ledger.
    have hshows : (s'.validate { w with visiting := v } d.uri trigger forced).events.filterMap
        (Event.shows? u) =
          if s'.runs w d file (s'.settingsOf w d.uri).1 forced then
            setsFor u (s'.ledger.reconcile v
              (s'.record w d file (s'.settingsOf w d.uri).1 trigger forced).outcome).2
          else [] :=
      validate_shows hkeyed' trigger forced hfile (h.document.trans hdocument) u
    rw [validate_shows hkeyed trigger forced hfile hdocument, hshows, h.settingsOf_fst, h.runs,
      h.record]
    generalize s.record w d file (s.settingsOf w d.uri).1 trigger forced = record at hrecord
    split
    · -- The files that are published for depend on the ledger by the old report alone.
      have hold : s'.ledger.reportedOn record.outcome.document =
          s.ledger.reportedOn record.outcome.document := by
        unfold Ledger.reportedOn Table.getD
        rw [hreport _ hrecord]
      simp only [setsFor_eq_nil, Ledger.mem_reconcile_files, hold]
    · rfl
  · rw [s.validate_quiet w trigger forced hnone,
      s'.validate_quiet _ trigger forced (hnone.imp_right h.document.trans)]
    rfl

/-- Analyzing documents that name different files publishes something for a URI if analyzing one of
them alone would have done so. -/
theorem validateEach_shows {uris : List Uri} (hkeyed : s.Keyed) (hnodup : uris.Nodup)
    (hseparate : Separate uris) (trigger : Trigger) (forced : Bool) (u : Uri) :
    (validateEach w trigger forced s uris).events.filterMap (Event.shows? u) = [] ↔
      ∀ uri ∈ uris, (s.validate w uri trigger forced).events.filterMap (Event.shows? u) = [] := by
  induction uris generalizing s with
  | nil => exact ⟨fun _ uri huri => absurd huri List.not_mem_nil, fun _ => rfl⟩
  | cons first rest ih =>
    obtain ⟨hfirst, hnodup⟩ := List.nodup_cons.1 hnodup
    have hnext : (s.validate w first trigger forced).session.Keyed :=
      validate_keyed hkeyed first trigger forced
    change ((s.validate w first trigger forced).events ++ _).filterMap (Event.shows? u) = [] ↔ _
    rw [List.filterMap_append, List.append_eq_nil_iff, List.forall_mem_cons,
      ih hnext hnodup hseparate.tail]
    refine and_congr_right fun _ => forall_congr' fun uri => imp_congr_right fun huri => ?_
    have hne : first ≠ uri := fun heq => hfirst (heq ▸ huri)
    refine validate_shows_congr (.of_validate hne hkeyed trigger forced) (fun id hid => ?_) hkeyed
      hnext w.visiting trigger forced u
    exact get?_reports_validate hkeyed trigger forced (hseparate.head_ne hfirst huri hid)

/-- Analyzing documents closes none. -/
theorem closed_not_mem_validateEach (hkeyed : s.Keyed) (trigger : Trigger) (forced : Bool)
    (uris : List Uri) (uri : Uri) :
    .closed uri ∉ (validateEach w trigger forced s uris).events := by
  induction uris generalizing s with
  | nil => exact List.not_mem_nil
  | cons first rest ih =>
    intro hmem
    rcases List.mem_append.1 hmem with hmem | hmem
    · obtain ⟨file, d, hfile, hdocument⟩ | hnone := s.openFile_or first
      · obtain ⟨before, after, hevents⟩ :=
          s.validate_events w trigger forced hfile hdocument hkeyed
        rw [hevents] at hmem
        split at hmem <;> simp at hmem
      · rw [s.validate_quiet w trigger forced hnone] at hmem
        exact absurd hmem List.not_mem_nil
    · exact ih (validate_keyed hkeyed first trigger forced) hmem

end Session

/-! ## What is shown in the end -/

section Withdrawn

variable {trace events : List Event} {u : Uri}

/-- Events that publish nothing for a URI, and close no document, leave a set taken back or not. -/
theorem withdrawn_append_of_nil (hclosed : ∀ uri, .closed uri ∉ events)
    (h : events.filterMap (Event.shows? u) = []) :
    withdrawn (trace ++ events) u = withdrawn trace u := by
  unfold withdrawn
  rw [latest?_append_of_none]
  intro e he
  have hmute : e.shows? u = none := List.filterMap_eq_nil_iff.1 h e he
  cases e with
  | sent m =>
    change (m.publishes? u).map _ = none
    rw [show m.publishes? u = none from hmute, Option.map_none]
  | closed uri => exact absurd he (hclosed uri)
  | passed r => rfl
  | noted n => rfl

/-- After events that publish something for a URI, and close no document, its set is not taken back.
-/
theorem withdrawn_append_of_ne_nil (hclosed : ∀ uri, .closed uri ∉ events)
    (h : events.filterMap (Event.shows? u) ≠ []) : withdrawn (trace ++ events) u = false := by
  unfold withdrawn
  rw [latest?_append_of_forall (a := false)]
  · rfl
  · obtain ⟨set, hset⟩ := List.exists_mem_of_ne_nil _ h
    obtain ⟨e, he, hshows⟩ := List.mem_filterMap.1 hset
    refine ⟨e, he, ?_⟩
    cases e with
    | sent m =>
      change (m.publishes? u).map _ ≠ none
      rw [show m.publishes? u = some set from hshows]
      exact Option.some_ne_none _
    | closed uri => exact absurd he (hclosed uri)
    | passed r => cases hshows
    | noted n => cases hshows
  · intro e he b hb
    cases e with
    | sent m =>
      obtain ⟨_, -, rfl⟩ := Option.map_eq_some_iff.1 hb
      rfl
    | closed uri => exact absurd he (hclosed uri)
    | passed r => cases hb
    | noted n => cases hb

end Withdrawn

/-- That no other file has the URI of a file depends on the passes alone. -/
theorem Sole.of_passed {trace events events' : List Event} {file : String} {u : Uri}
    (h : Sole (trace ++ events) file u)
    (hpassed : ∀ r, .passed r ∈ events' → .passed r ∈ events) :
    Sole (trace ++ events') file u := by
  intro other hother
  refine h other ?_
  obtain ⟨e, he, hfile⟩ := List.mem_flatMap.1 hother
  refine List.mem_flatMap.2 ⟨e, ?_, hfile⟩
  rcases List.mem_append.1 he with he | he
  · exact List.mem_append_left _ he
  · cases e with
    | passed r => exact List.mem_append_right _ (hpassed r he)
    | sent m => exact absurd hfile List.not_mem_nil
    | closed uri => exact absurd hfile List.not_mem_nil
    | noted n => exact absurd hfile List.not_mem_nil

/-- What is done keeps the ledger and what is shown consistent. -/
theorem Consistent.does {w : World} {s : Session} {trace : List Event} (h : Consistent s trace)
    (hkeyed : s.Keyed) {r : Reaction} (hdoes : Does w s r) :
    Consistent r.session (trace ++ r.events) :=
  (hdoes.keeps (I := fun s trace => s.Keyed ∧ Consistent s trace)
    (fun hact h => ⟨hact.keyed h.1, h.2.act h.1 hact⟩) ⟨hkeyed, h⟩).2

namespace Session

variable {w : World} {s : Session} {uris uris' : List Uri}

/-- Whatever the order, the same passes are run. -/
theorem passed_validateEach_perm (hperm : uris'.Perm uris) (hkeyed : s.Keyed) (hnodup : uris.Nodup)
    (v : Visiting) (trigger : Trigger) (forced : Bool) {r : PassRecord}
    (hr : .passed r ∈ (validateEach { w with visiting := v } trigger forced s uris').events) :
    .passed r ∈ (validateEach w trigger forced s uris).events := by
  have hr' : r ∈ passesOver (validateEach { w with visiting := v } trigger forced s uris').events
      r.document.uri :=
    List.mem_filter.2 ⟨List.mem_filterMap.2 ⟨_, hr, rfl⟩, decide_eq_true rfl⟩
  -- A document is analyzed once, so its passes are those of its own analysis in either order.
  by_cases huri : r.document.uri ∈ uris
  · have huri' : r.document.uri ∈ uris' := hperm.mem_iff.2 huri
    rw [(validateEach_alone hkeyed (hperm.nodup_iff.2 hnodup) huri' trigger forced).2,
      passesOver_visiting hkeyed,
      ← (validateEach_alone hkeyed hnodup huri trigger forced).2] at hr'
    obtain ⟨e, he, her⟩ := List.mem_filterMap.1 (List.mem_filter.1 hr').1
    exact Event.eq_passed her ▸ he
  · have huri' : r.document.uri ∉ uris' := fun h => huri (hperm.mem_iff.1 h)
    rw [(validateEach_others hkeyed huri' trigger forced).2] at hr'
    exact absurd hr' List.not_mem_nil

/-- Whatever the order, a set is taken back or not. -/
theorem withdrawn_validateEach_perm (hperm : uris'.Perm uris) (hkeyed : s.Keyed)
    (hnodup : uris.Nodup) (hseparate : Separate uris) (v : Visiting) (trigger : Trigger)
    (forced : Bool) (trace : List Event) (u : Uri) :
    withdrawn (trace ++ (validateEach { w with visiting := v } trigger forced s uris').events) u =
      withdrawn (trace ++ (validateEach w trigger forced s uris).events) u := by
  have hclosed := closed_not_mem_validateEach (w := w) hkeyed trigger forced uris
  have hclosed' := closed_not_mem_validateEach (w := { w with visiting := v }) hkeyed trigger forced
    uris'
  have hshows : (validateEach { w with visiting := v } trigger forced s uris').events.filterMap
      (Event.shows? u) = [] ↔
      (validateEach w trigger forced s uris).events.filterMap (Event.shows? u) = [] := by
    rw [validateEach_shows hkeyed (hperm.nodup_iff.2 hnodup) (hseparate.perm hperm),
      validateEach_shows hkeyed hnodup hseparate]
    exact forall_congr' fun uri => imp_congr hperm.mem_iff
      (validate_shows_congr (.refl uri s) (fun _ _ => rfl) hkeyed hkeyed v trigger forced u)
  by_cases hnil : (validateEach w trigger forced s uris).events.filterMap (Event.shows? u) = []
  · rw [withdrawn_append_of_nil hclosed hnil, withdrawn_append_of_nil hclosed' (hshows.2 hnil)]
  · rw [withdrawn_append_of_ne_nil hclosed hnil,
      withdrawn_append_of_ne_nil hclosed' fun h => hnil (hshows.1 h)]

/-- What is shown for the URI of a file after documents that name different files were analyzed does
not depend on the order in which they and their reports are visited, up to the order of findings
that start at one place. -/
theorem validateEach_shown (hperm : uris'.Perm uris) (hkeyed : s.Keyed) (hnodup : uris.Nodup)
    (hseparate : Separate uris) (v : Visiting) (trigger : Trigger) (forced : Bool)
    {trace : List Event} (hconsistent : Consistent s trace) {file : String} {u : Uri}
    (hu : Uri.ofFilePath? file = some u)
    (hsole : Sole (trace ++ (validateEach w trigger forced s uris).events) file u) :
    Finding.SameUpToTies
      (shown (trace ++ (validateEach { w with visiting := v } trigger forced s uris').events) u)
      (shown (trace ++ (validateEach w trigger forced s uris).events) u) := by
  have hsole' : Sole (trace ++
      (validateEach { w with visiting := v } trigger forced s uris').events) file u :=
    hsole.of_passed fun _ => passed_validateEach_perm hperm hkeyed hnodup v trigger forced
  -- In the end what is shown merges the reports, or it was taken back and nothing published since.
  have hdisplays := (hconsistent.does hkeyed
    (s.validateEach_does w trigger forced uris)).displays hu hsole
  have hdisplays' := (hconsistent.does hkeyed
    (s.validateEach_does { w with visiting := v } trigger forced uris')).displays hu hsole'
  unfold Displays at hdisplays hdisplays'
  rw [withdrawn_validateEach_perm hperm hkeyed hnodup hseparate,
    validateEach_visiting hkeyed, validateEach_perm hperm hkeyed hnodup hseparate] at hdisplays'
  split at hdisplays
  · next hwithdrawn =>
    rw [if_pos hwithdrawn] at hdisplays'
    rw [hdisplays, hdisplays']
    exact ⟨.refl _, rfl⟩
  · next hwithdrawn =>
    rw [if_neg hwithdrawn] at hdisplays'
    exact hdisplays'.sameUpToTies hdisplays

end Session

/-! ## Messages about one document -/

/-- From one session to another nothing was changed that is kept about other documents than one, and
no report but that of the file it names. -/
structure Local (uri : Uri) (s s' : Session) : Prop where
  /-- The sessions are alike for all other documents. -/
  others : ∀ other, other ≠ uri → Alike other s s'
  /-- Other files have the same reports. -/
  reports : ∀ id, identityOf? uri ≠ some id →
    s'.ledger.reports.get? id = s.ledger.reports.get? id

namespace Local

variable {w : World} {uri : Uri} {s s' s'' : Session}

/-- Nothing changes nothing. -/
theorem refl (uri : Uri) (s : Session) : Local uri s s :=
  ⟨fun other _ => .refl other s, fun _ _ => rfl⟩

/-- Two changes for one document are one. -/
theorem trans (h : Local uri s s') (h' : Local uri s' s'') : Local uri s s'' :=
  ⟨fun other hother => (h.others other hother).trans (h'.others other hother),
    fun id hid => (h'.reports id hid).trans (h.reports id hid)⟩

/-- Two things that are done for one document, one after the other. -/
theorem andThen {r : Reaction} {next : Session → Reaction} (h : Local uri s r.session)
    (h' : Local uri r.session (next r.session).session) : Local uri s (r.andThen next).session :=
  h.trans h'

/-- Keeping the text of a document. -/
theorem store (s : Session) (d : Document) : Local d.uri s (s.store d).session := by
  refine ⟨fun other hother => ⟨?_, rfl, rfl, rfl, rfl, rfl, rfl⟩, fun _ _ => rfl⟩
  change (s.documents.insert d.uri.text d).get? other.text = s.documents.get? other.text
  simp [Uri.text_ne (Ne.symm hother)]

/-- Looking up the settings of a document. -/
theorem resolve (w : World) (s : Session) (uri : Uri) :
    Local uri s (s.settingsOf w uri).2.session := by
  have hkept : ∀ other, other ≠ uri → (s.settingsOf w uri).2.session.settings.get? other.text =
      s.settings.get? other.text := fun other hother => by simp [Uri.text_ne (Ne.symm hother)]
  obtain ⟨table, messages, hresolved, -⟩ := s.settingsOf_spec w uri
  rw [hresolved] at hkept ⊢
  exact ⟨fun other hother => ⟨rfl, hkept other hother, rfl, rfl, rfl, rfl, rfl⟩, fun _ _ => rfl⟩

/-- Letting a pass over a document wait. -/
theorem await (s : Session) (uri : Uri) (version : Int) : Local uri s (s.await uri version) :=
  ⟨fun _ _ => ⟨rfl, rfl, rfl, rfl, rfl, rfl, rfl⟩, fun _ _ => rfl⟩

/-- Analyzing a document. -/
theorem validate (hkeyed : s.Keyed) (uri : Uri) (trigger : Trigger) (forced : Bool) :
    Local uri s (s.validate w uri trigger forced).session :=
  ⟨fun _ hother => .of_validate (Ne.symm hother) hkeyed trigger forced,
    fun _ hid => Session.get?_reports_validate hkeyed trigger forced hid⟩

/-- Closing a document. -/
theorem close (w : World) (s : Session) (uri : Uri) : Local uri s (s.closed w uri).session where
  others other hother := by
    have herase : ∀ {α : Type} (t : Table α), (t.erase uri.text).get? other.text =
        t.get? other.text := fun t => by simp [Uri.text_ne (Ne.symm hother)]
    exact ⟨herase s.documents, herase s.settings, herase s.linters, herase s.versions, rfl, rfl,
      rfl⟩
  reports id hid := by rw [Session.get?_reports_closed, if_neg hid]

/-- Going on with the settings of a document, whatever they are. -/
theorem resolve_andThen (s : Session) (uri : Uri) (next : Settings → Session → Reaction)
    (h : ∀ settings, Local uri (s.settingsOf w uri).2.session
      (next settings (s.settingsOf w uri).2.session).session) :
    Local uri s ((s.settingsOf w uri).2.andThen (next (s.settingsOf w uri).1)).session :=
  (resolve w s uri).andThen (h _)

/-- Opening a document. -/
theorem opened (hkeyed : s.Keyed) (d : Document) : Local d.uri s (s.opened w d).session := by
  have hstore : Act w s (s.store d) := .store d
  exact (store s d).andThen (validate (hstore.keyed hkeyed) d.uri .onSave false)

/-- Changing a document. -/
theorem changed (s : Session) (uri : Uri) (version : Int) (texts : List String) :
    Local uri s (s.changed w uri version texts).session := by
  cases texts with
  | nil => exact refl uri s
  | cons text rest =>
    unfold Session.changed
    refine (store s ⟨uri, text, version⟩).andThen (resolve_andThen _ uri (fun settings s' =>
      if settings.run = .onType then (s'.await uri version).quiet else s'.quiet) fun settings => ?_)
    split
    · exact await _ uri version
    · exact refl uri _

/-- Saving a document. -/
theorem saved (hkeyed : s.Keyed) (uri : Uri) (text : Option String) :
    Local uri s (s.saved w uri text).session := by
  have hstored : Local uri s (s.storeSaved uri text).session := by
    unfold Session.storeSaved
    split
    · next text d hd =>
      obtain rfl := hkeyed.uri_eq hd
      exact store s { d with text }
    · exact refl uri s
  have hkeyed : (s.storeSaved uri text).session.Keyed :=
    (s.storeSaved_does w uri text).keyed hkeyed
  have hresolve : Act w _ ((s.storeSaved uri text).session.settingsOf w uri).2 := .resolve uri
  rw [Session.saved_eq]
  refine hstored.andThen (resolve_andThen _ uri
    (fun settings s' => s'.afterSave w uri settings) fun settings => ?_)
  obtain ⟨forced, hnext⟩ | hnext := Session.afterSave_eq w _ uri settings
  · rw [hnext]
    exact validate (hresolve.keyed hkeyed) uri .onSave forced
  · rw [hnext]
    exact refl uri _

end Local

/-- The document that a notice is about, if it is about one. -/
def Notice.about? : Notice → Option Uri
  | .opened uri _ _ | .changed uri _ _ | .saved uri _ | .closed uri => some uri
  | .ready | .settingsChanged _ | .filesChanged _ | .built _ => none

/-- The document that a command is to analyze, if it is to analyze one. -/
def commandAbout? (params : Json) : Option Uri :=
  if textAt? params "command" = some Session.analyzeDocument then
    (itemsAt params "arguments").head?.bind uri?
  else none

/-- The document that an input is about, if it is about one: a notice that it was opened, changed,
saved or closed, or a request to analyze it. -/
def Input.about? : Input → Option Uri
  | .notice method params => (Notice.read? method params).bind Notice.about?
  | .request method params =>
    if method = "workspace/executeCommand" then
      (params.bind fun params => (Form.commandRequest false params).toOption).bind commandAbout?
    else none
  | .elapse _ => none

/-- A notice about one document leaves the others alone. -/
theorem Session.handle_local {w : World} {s : Session} (hkeyed : s.Keyed) {notice : Notice}
    {uri : Uri} (h : notice.about? = some uri) : Local uri s (s.handle w notice).session := by
  cases notice with
  | opened other text version =>
    obtain rfl := Option.some.inj h
    exact .opened hkeyed ⟨other, text, version⟩
  | changed other version texts =>
    obtain rfl := Option.some.inj h
    exact .changed s other version texts
  | saved other text =>
    obtain rfl := Option.some.inj h
    exact .saved hkeyed other text
  | closed other =>
    obtain rfl := Option.some.inj h
    exact .close w s other
  | ready => cases h
  | settingsChanged settings => cases h
  | filesChanged uris => cases h
  | built document => cases h

namespace Connection

variable {w : World} {c : Connection} {uri : Uri}

/-- A request to analyze one document leaves the others alone. -/
theorem command_local (hkeyed : c.session.Keyed) {params : Option Json}
    (h : (params.bind fun params => (Form.commandRequest false params).toOption).bind
      commandAbout? = some uri) : Local uri c.session (c.command w params).connection.session := by
  obtain ⟨json, hjson, habout⟩ := Option.bind_eq_some_iff.1 h
  obtain ⟨raw, rfl, hform⟩ := Option.bind_eq_some_iff.1 hjson
  unfold command withParams
  dsimp only
  cases hread : Form.commandRequest false raw with
  | error e => exact .refl uri _
  | ok params =>
    rw [hread] at hform
    obtain rfl := Option.some.inj hform
    unfold commandAbout? at habout
    split at habout
    · next hname =>
      have hcommand : c.session.command w ((textAt? params "command").getD "")
          (itemsAt params "arguments") = .ok (c.session.validate w uri .onSave true) := by
        unfold Session.command
        rw [hname, habout]
        rfl
      dsimp only
      rw [hcommand]
      exact .validate hkeyed uri .onSave true
    · cases habout

/-- What comes in and is about one document leaves the others alone. -/
theorem take_local (hkeyed : c.session.Keyed) {input : Input} (h : input.about? = some uri) :
    Local uri c.session (c.take w input).connection.session := by
  cases input with
  | elapse milliseconds => cases h
  | notice method params =>
    obtain ⟨notice, hread, habout⟩ := Option.bind_eq_some_iff.1 h
    by_cases hrunning : c.phase = .running
    · rw [take_notice hrunning hread]
      exact Session.handle_local hkeyed habout
    · change Local uri c.session (c.notify w method params).connection.session
      rw [session_notify fun h => absurd h hrunning]
      exact .refl uri _
  | request method params =>
    change (if method = "workspace/executeCommand" then
      (params.bind fun params => (Form.commandRequest false params).toOption).bind commandAbout?
      else none) = some uri at h
    split at h
    · next hmethod =>
      subst hmethod
      have hidle : ∀ answer : Answer, Local uri c.session (c.reply answer).connection.session :=
        fun _ => .refl uri _
      change Local uri c.session (c.request w "workspace/executeCommand" params).connection.session
      unfold request
      split
      · exact hidle _
      · rw [if_neg (by decide), if_neg (by decide), if_neg (by decide), if_neg (by decide),
          if_pos (by decide)]
        split
        · unfold runningRequest
          rw [if_pos rfl]
          exact command_local hkeyed h
        · exact hidle _
    · cases h

end Connection

/-! ## Independence -/

/-- A server comes to a session, perhaps in the middle of a turn, and has done what a trace
lists. -/
def Reached (s : Session) (trace : List Event) : Prop :=
  ∃ inputs w r, Does w (Course.of inputs).connection.session r ∧ s = r.session ∧
    trace = (Course.of inputs).trace ++ r.events

namespace Reached

variable {s : Session} {trace : List Event}

/-- Every course comes to its session. -/
theorem course (inputs : List (World × Input)) :
    Reached (Course.of inputs).connection.session (Course.of inputs).trace :=
  ⟨inputs, .bare, _, .nothing _, rfl, (List.append_nil _).symm⟩

/-- Documents are kept by the text of their URIs. -/
theorem keyed (h : Reached s trace) : s.Keyed := by
  obtain ⟨inputs, w, r, hdoes, rfl, rfl⟩ := h
  exact hdoes.keyed (Course.keyed inputs)

/-- The session and what was done tell the same. -/
theorem consistent (h : Reached s trace) : Consistent s trace := by
  obtain ⟨inputs, w, r, hdoes, rfl, rfl⟩ := h
  exact (Consistent.course inputs).does (Course.keyed inputs) hdoes

end Reached

/-- A message by which a document is opened, changed, saved, closed or analyzed leaves text,
settings, linters and version of every other document as they were, and its report too, unless both
URIs name one file.

Wherever a server comes to, if no two open documents name one file, then analyzing all of them, in
whatever order they and their reports are visited, ends in the same session; and for every file
whose URI no other file has, it ends with the same set that was published last, up to the order of
findings that start at one place. -/
theorem documents_independent :
    (∀ (inputs : List (World × Input)) {w : World} {input : Input} {uri : Uri},
      input.about? = some uri → ∀ {s s' : Session}, s = (Course.of inputs).connection.session →
      s' = ((Course.of inputs).connection.take w input).connection.session →
      ∀ other, other ≠ uri → s'.document? other = s.document? other ∧
        s'.settings.get? other.text = s.settings.get? other.text ∧
        s'.linters.get? other.text = s.linters.get? other.text ∧
        s'.versions.get? other.text = s.versions.get? other.text ∧
        ∀ id, identityOf? other = some id → identityOf? uri ≠ some id →
          s'.ledger.reports.get? id = s.ledger.reports.get? id) ∧
    (∀ {s : Session} {trace : List Event}, Reached s trace → Separate s.openUris →
      ∀ (w : World) (v : Visiting) (trigger : Trigger) (forced : Bool),
      (s.validateAll { w with visiting := v } trigger forced).session =
        (s.validateAll w trigger forced).session ∧
      ∀ {file : String} {u : Uri}, Uri.ofFilePath? file = some u →
        Sole (trace ++ (s.validateAll w trigger forced).events) file u →
        Finding.SameUpToTies
          (shown (trace ++ (s.validateAll { w with visiting := v } trigger forced).events) u)
          (shown (trace ++ (s.validateAll w trigger forced).events) u)) := by
  constructor
  · rintro inputs w input uri habout s s' rfl rfl other hother
    have hlocal := Connection.take_local (w := w) (Course.keyed inputs) habout
    obtain ⟨hdocument, hsettings, hlinters, hversion, -, -, -⟩ := hlocal.others other hother
    exact ⟨hdocument, hsettings, hlinters, hversion, fun id _ hid => hlocal.reports id hid⟩
  · intro s trace hreached hseparate w v trigger forced
    have hkeyed := hreached.keyed
    -- Both orders go through the open documents, each once.
    have hvisited := s.visitedUris_perm w
    have hperm : (s.visitedUris { w with visiting := v }).Perm (s.visitedUris w) :=
      (s.visitedUris_perm { w with visiting := v }).trans hvisited.symm
    have hnodup := hvisited.nodup_iff.2 (Session.openUris_nodup hkeyed)
    have hseparate := hseparate.perm hvisited
    refine ⟨?_, fun {file u} hu hsole => ?_⟩
    · exact (Session.validateEach_visiting hkeyed v trigger forced _).trans
        (Session.validateEach_perm hperm hkeyed hnodup hseparate trigger forced)
    · exact Session.validateEach_shown hperm hkeyed hnodup hseparate v trigger forced
        hreached.consistent hu hsole

namespace SharedHeader

/-- The source file and the header are opened. -/
def both : List (World × Input) := opening ++ [(world, .opens ⟨header, "", 1⟩)]

/-- The same world, in which documents and reports are visited the other way round. -/
def backwards : World := { world with visiting := .descending }

/-- Another URI of the source file. -/
def sourceAgain : Uri := ⟨"file:///ws//a.c"⟩

end SharedHeader

/-- Closing a header leaves the source file alone that reports on it; and while both are open, they
may be analyzed in either order. -/
theorem source_beside_header :
    (∀ s s', s = (Course.of SharedHeader.both).connection.session →
      s' = ((Course.of SharedHeader.both).connection.take SharedHeader.world
        (.closes SharedHeader.header)).connection.session →
      s'.document? SharedHeader.source = s.document? SharedHeader.source ∧
      s'.ledger.reports.get? "/ws/a.c" = s.ledger.reports.get? "/ws/a.c") ∧
    ∀ s, s = (Course.of SharedHeader.both).connection.session →
      s.visitedUris SharedHeader.world = [SharedHeader.source, SharedHeader.header] ∧
      s.visitedUris SharedHeader.backwards = [SharedHeader.header, SharedHeader.source] ∧
      (s.validateAll SharedHeader.backwards .onSave true).session =
        (s.validateAll SharedHeader.world .onSave true).session ∧
      Finding.SameUpToTies
        (shown ((Course.of SharedHeader.both).trace ++
          (s.validateAll SharedHeader.backwards .onSave true).events) SharedHeader.header)
        (shown ((Course.of SharedHeader.both).trace ++
          (s.validateAll SharedHeader.world .onSave true).events) SharedHeader.header) := by
  have hrun : (Course.of SharedHeader.both).connection.session.openUris =
        [SharedHeader.source, SharedHeader.header] ∧
      (Course.of SharedHeader.both).connection.session.visitedUris SharedHeader.world =
        [SharedHeader.source, SharedHeader.header] ∧
      (Course.of SharedHeader.both).connection.session.visitedUris SharedHeader.backwards =
        [SharedHeader.header, SharedHeader.source] ∧
      Sole ((Course.of SharedHeader.both).trace ++
        ((Course.of SharedHeader.both).connection.session.validateAll SharedHeader.world .onSave
          true).events) "/ws/h.h" SharedHeader.header := by
    decide +kernel
  obtain ⟨hopen, hforth, hback, hsole⟩ := hrun
  have hids : identityOf? SharedHeader.source = some "/ws/a.c" ∧
      identityOf? SharedHeader.header = some "/ws/h.h" ∧
      Uri.ofFilePath? "/ws/h.h" = some SharedHeader.header := by
    decide +kernel
  obtain ⟨hsource, hheader, hu⟩ := hids
  obtain ⟨hmessage, horder⟩ := documents_independent
  constructor
  · intro s s' hs hs'
    have habout : (Input.closes SharedHeader.header).about? = some SharedHeader.header := rfl
    obtain ⟨hdocument, -, -, -, hreport⟩ := hmessage SharedHeader.both habout hs hs'
      SharedHeader.source (by decide)
    exact ⟨hdocument, hreport _ hsource (by rw [hheader]; decide)⟩
  · -- The session stays a variable, or else it would be evaluated once more wherever it stands.
    intro s hs
    have hreached := Reached.course SharedHeader.both
    rw [← hs] at hopen hforth hback hsole hreached
    have hseparate : Separate s.openUris := by
      rw [hopen]
      exact .pair (by rw [hsource, hheader]; decide)
    obtain ⟨hsession, hshown⟩ :=
      horder hreached hseparate SharedHeader.world .descending .onSave true
    exact ⟨hforth, hback, hsession, hshown hu hsole⟩

namespace SharedUri

/-- A document. -/
def first : Uri := ⟨"file:///a.c"⟩

/-- Another document. -/
def second : Uri := ⟨"file:///b.c"⟩

/-- The URI of the files that they report on. -/
def header : Uri := ⟨"file:///h.h"⟩

/-- A world in which the two documents report on different files that have one URI. -/
def world : World :=
  .installing "lizard" fun _ arguments => ⟨some 0,
    (if arguments.contains "/a.c" then "//h.h:7: warning: m\n"
    else "/h.h:8: warning: m\n").toUTF8.toList, []⟩

/-- The two documents are opened. -/
def inputs : List (World × Input) :=
  [(world, .introduces ⟨"file:///"⟩ (.object [])), (world, .opens ⟨first, "", 1⟩),
    (world, .opens ⟨second, "", 1⟩)]

/-- The lines that are shown for the URI after all documents were analyzed in a world. -/
def shownIn (w : World) : List Nat :=
  (shown ((Course.of inputs).trace ++
    ((Course.of inputs).connection.session.validateAll w .onSave true).events) header).map
      (·.range.start.line)

end SharedUri

/-- Opening or closing a second URI of a file changes the report of the only document that is open;
and if two files have one URI, what is shown for it depends on the order in which the documents are
visited that report on them. -/
theorem dependent_documents :
    ((Course.of SharedHeader.opening).connection.session.openUris = [SharedHeader.source] ∧
      identityOf? SharedHeader.source = some "/ws/a.c" ∧
      ((Course.of SharedHeader.opening).connection.session.ledger.reports.get?
        "/ws/a.c").map Table.keys = some ["/ws/h.h"] ∧
      ∀ input ∈ [Input.opens ⟨SharedHeader.sourceAgain, "", 1⟩, .closes SharedHeader.sourceAgain],
        input.about? = some SharedHeader.sourceAgain ∧
        (((Course.of SharedHeader.opening).connection.take .bare
          input).connection.session.ledger.reports.get? "/ws/a.c").map Table.keys ≠
            some ["/ws/h.h"]) ∧
    Separate (Course.of SharedUri.inputs).connection.session.openUris ∧
    (Course.of SharedUri.inputs).connection.session.openUris =
      [SharedUri.first, SharedUri.second] ∧
    SharedUri.shownIn SharedUri.world = [7] ∧
    SharedUri.shownIn { SharedUri.world with visiting := .descending } = [6] := by
  have hruns : (Course.of SharedUri.inputs).connection.session.openUris =
        [SharedUri.first, SharedUri.second] ∧
      SharedUri.shownIn SharedUri.world = [7] ∧
      SharedUri.shownIn { SharedUri.world with visiting := .descending } = [6] := by
    decide +kernel
  refine ⟨by decide +kernel, ?_, hruns⟩
  rw [hruns.1]
  exact .pair (by decide +kernel)

end LintRelay.Server
