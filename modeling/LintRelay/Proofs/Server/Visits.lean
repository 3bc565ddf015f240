import LintRelay.Proofs.Server.Queue
import LintRelay.Proofs.Table

/-!
# Documents that are analyzed one after the other

Analyzing an open file changes what is kept about it, and the ledger, and nothing else
(`Session.validate_eq`). What it changes there, and which pass it runs, depends only on what is
kept about that document and on a few things that no analysis changes. Sessions that agree on all of
this are `Alike` for the document.

So documents that are analyzed one after the other do not get in each other's way: each is analyzed
as if it were the only one (`validateEach_alone`).
-/

namespace LintRelay.Server

/-! ## One analysis -/

namespace Session

variable (w : World) (s : Session)

/-- Settings that were looked up are kept for their document, and for the others those that were
kept before. -/
@[simp]
theorem get?_settingsOf (uri : Uri) (key : String) :
    (s.settingsOf w uri).2.session.settings.get? key =
      if uri.text = key then some (s.settingsOf w uri).1 else s.settings.get? key := by
  unfold settingsOf
  cases hkept : s.settings.get? uri.text with
  | some settings =>
    change s.settings.get? key = _
    split
    · next hkey => rw [← hkey, hkept]
    · rfl
  | none => exact Table.get?_insert _ _ _ _

/-- A document has the settings that are kept for it. -/
theorem settingsOf_of_get? {uri : Uri} {settings : Settings}
    (h : s.settings.get? uri.text = some settings) : (s.settingsOf w uri).1 = settings := by
  unfold settingsOf
  rw [h]

/-- Linters that were looked up are kept for their document, and for the others those that were kept
before. -/
@[simp]
theorem get?_lintersOf (uri : Uri) (settings : Settings) (root key : String) :
    (s.lintersOf w uri settings root).2.session.linters.get? key =
      if uri.text = key then some (s.lintersOf w uri settings root).1 else s.linters.get? key := by
  unfold lintersOf
  cases hkept : s.linters.get? uri.text with
  | some linters =>
    change s.linters.get? key = _
    split
    · next hkey => rw [← hkey, hkept]
    · rfl
  | none => exact Table.get?_insert _ _ _ _

/-- Looking up linters changes nothing but the linters that are kept, and does not depend on the
settings that are kept. -/
theorem lintersOf_snd (table : Table Settings) (uri : Uri) (settings : Settings) (root : String) :
    ({ s with settings := table }.lintersOf w uri settings root).2 =
      ⟨{ s with
          settings := table
          linters := (s.lintersOf w uri settings root).2.session.linters },
        (s.lintersOf w uri settings root).2.events⟩ := by
  unfold lintersOf
  cases s.linters.get? uri.text <;> rfl

/-- What a pass comes to. The linters are kept; the version and what was found are kept if a pass
was run, that is, unless the text has to be copied and cannot be. -/
theorem pass_eq (d : Document) (file : String) (settings : Settings) (trigger : Trigger)
    (forced : Bool) :
    s.pass w d file settings trigger forced =
      ⟨{ s with
          linters :=
            (s.lintersOf w d.uri settings (workspaceRoot s.folders file)).2.session.linters
          versions :=
            if (w.shadow? settings file d.text).isSome then s.versions.insert d.uri.text d.version
            else s.versions
          ledger :=
            if (w.shadow? settings file d.text).isSome then
              (s.ledger.reconcile w.visiting (s.record w d file settings trigger forced).outcome).1
            else s.ledger },
        (s.lintersOf w d.uri settings (workspaceRoot s.folders file)).2.events ++
          (if (w.shadow? settings file d.text).isSome then
            .passed (s.record w d file settings trigger forced) ::
              (s.conclude w d (s.record w d file settings trigger forced).outcome).events
          else [.noted (.declined d settings forced)])⟩ := by
  have hprepared := s.lintersOf_snd w s.settings d.uri settings (workspaceRoot s.folders file)
  unfold pass record Reaction.andThen
  dsimp only at hprepared ⊢
  rw [hprepared]
  cases w.shadow? settings file d.text <;> rfl

/-- What analyzing an open file comes to. The settings are kept, and the linters unless the version
had its pass; the version and what was found are kept if a pass was run. -/
theorem validate_eq {uri : Uri} {file : String} {d : Document} (trigger : Trigger)
    (forced : Bool) (hfile : uri.filePath? = some file) (hdocument : s.document? uri = some d)
    (hkeyed : s.Keyed) :
    s.validate w uri trigger forced =
      ⟨{ s with
          settings := (s.settingsOf w uri).2.session.settings
          linters :=
            if forced || !s.isCurrent uri d.version then
              (s.lintersOf w uri (s.settingsOf w uri).1
                (workspaceRoot s.folders file)).2.session.linters
            else s.linters
          versions :=
            if s.runs w d file (s.settingsOf w uri).1 forced then
              s.versions.insert uri.text d.version
            else s.versions
          ledger :=
            if s.runs w d file (s.settingsOf w uri).1 forced then
              (s.ledger.reconcile w.visiting
                (s.record w d file (s.settingsOf w uri).1 trigger forced).outcome).1
            else s.ledger },
        (s.settingsOf w uri).2.events ++
          ((if forced || !s.isCurrent uri d.version then
            (s.lintersOf w uri (s.settingsOf w uri).1 (workspaceRoot s.folders file)).2.events
          else []) ++
          (if s.runs w d file (s.settingsOf w uri).1 forced then
            .passed (s.record w d file (s.settingsOf w uri).1 trigger forced) ::
              (s.conclude w d
                (s.record w d file (s.settingsOf w uri).1 trigger forced).outcome).events
          else [.noted (.declined d (s.settingsOf w uri).1 forced)]))⟩ := by
  obtain rfl := hkeyed.uri_eq hdocument
  obtain ⟨table, messages, hresolved, -⟩ := s.settingsOf_spec w d.uri
  unfold validate Reaction.andThen runs
  rw [hfile, hdocument]
  dsimp only
  rw [hresolved]
  generalize (s.settingsOf w d.uri).1 = settings
  -- Versions, folders and linters are not touched when settings are looked up.
  have hcurrent : { s with settings := table }.isCurrent d.uri d.version =
      s.isCurrent d.uri d.version := rfl
  have hrecord : { s with settings := table }.record w d file settings trigger forced =
      s.record w d file settings trigger forced := by
    unfold record
    dsimp only
    rw [lintersOf_fst]
  rw [hcurrent]
  split
  · next hskip =>
    have hskip : (forced || !s.isCurrent d.uri d.version) = false := by simpa using hskip
    rw [hskip]
    rfl
  · next hgo =>
    have hgo : (forced || !s.isCurrent d.uri d.version) = true := by
      simpa [Decidable.or_iff_not_imp_left] using hgo
    rw [pass_eq, hrecord, lintersOf_snd, hgo, Bool.true_and]
    rfl

/-- A URI is that of an open file, or it is that of no file or of no open document. -/
theorem openFile_or (uri : Uri) :
    (∃ file d, uri.filePath? = some file ∧ s.document? uri = some d) ∨
      (uri.filePath? = none ∨ s.document? uri = none) := by
  cases uri.filePath? with
  | none => exact .inr (.inl rfl)
  | some file =>
    cases s.document? uri with
    | none => exact .inr (.inr rfl)
    | some d => exact .inl ⟨file, d, rfl, rfl⟩

/-- Nothing is analyzed under a URI that is not that of an open file. -/
theorem validate_quiet {uri : Uri} (trigger : Trigger) (forced : Bool)
    (h : uri.filePath? = none ∨ s.document? uri = none) :
    s.validate w uri trigger forced = s.quiet := by
  unfold validate
  split
  · next file d hfile hdocument =>
    rw [hfile, hdocument] at h
    simp at h
  · rfl

end Session

/-! ## Sessions that are alike for a document -/

/-- Two sessions hold the same of what a document's analysis depends on: what is kept about the
document, the folders and settings of the workspace, and whether settings are asked of the editor.
-/
structure Alike (uri : Uri) (s s' : Session) : Prop where
  /-- Its text is the same. -/
  document : s'.document? uri = s.document? uri
  /-- So are its settings. -/
  settings : s'.settings.get? uri.text = s.settings.get? uri.text
  /-- So are its linters. -/
  linters : s'.linters.get? uri.text = s.linters.get? uri.text
  /-- So is the version of its latest pass. -/
  version : s'.versions.get? uri.text = s.versions.get? uri.text
  /-- The workspace has the same folders. -/
  folders : s'.folders = s.folders
  /-- It has the same settings. -/
  shared : s'.shared = s.shared
  /-- Settings are asked of the editor in both sessions, or in none. -/
  asksEditor : s'.asksEditor = s.asksEditor

namespace Alike

variable {w : World} {uri other : Uri} {s s' s'' : Session}

/-- A session is alike to itself. -/
theorem refl (uri : Uri) (s : Session) : Alike uri s s := ⟨rfl, rfl, rfl, rfl, rfl, rfl, rfl⟩

/-- Alikeness goes both ways. -/
theorem symm (h : Alike uri s s') : Alike uri s' s :=
  ⟨h.document.symm, h.settings.symm, h.linters.symm, h.version.symm, h.folders.symm, h.shared.symm,
    h.asksEditor.symm⟩

/-- Alikeness goes through. -/
theorem trans (h : Alike uri s s') (h' : Alike uri s' s'') : Alike uri s s'' :=
  ⟨h'.document.trans h.document, h'.settings.trans h.settings, h'.linters.trans h.linters,
    h'.version.trans h.version, h'.folders.trans h.folders, h'.shared.trans h.shared,
    h'.asksEditor.trans h.asksEditor⟩

/-! ### What is the same -/

/-- In alike sessions a document has the same settings. -/
theorem settingsOf_fst (h : Alike uri s s') : (s'.settingsOf w uri).1 = (s.settingsOf w uri).1 := by
  unfold Session.settingsOf
  rw [h.settings, h.shared, h.asksEditor]
  cases s.settings.get? uri.text <;> rfl

/-- So it has the same linters. -/
theorem lintersOf_fst (h : Alike uri s s') (settings : Settings) (root : String) :
    (s'.lintersOf w uri settings root).1 = (s.lintersOf w uri settings root).1 := by
  unfold Session.lintersOf
  rw [h.linters]
  cases s.linters.get? uri.text <;> rfl

/-- A version had its pass in both sessions, or in none. -/
theorem isCurrent (h : Alike uri s s') (version : Int) :
    s'.isCurrent uri version = s.isCurrent uri version := by
  unfold Session.isCurrent
  rw [h.version]

variable {d : Document}

/-- A request is answered by a pass in both sessions, or in none. -/
theorem runs (h : Alike d.uri s s') (file : String) (settings : Settings) (forced : Bool) :
    s'.runs w d file settings forced = s.runs w d file settings forced := by
  unfold Session.runs
  rw [h.isCurrent]

/-- The pass is the same. -/
theorem record (h : Alike d.uri s s') (file : String) (settings : Settings) (trigger : Trigger)
    (forced : Bool) :
    s'.record w d file settings trigger forced = s.record w d file settings trigger forced := by
  unfold Session.record
  dsimp only
  rw [h.folders, h.lintersOf_fst]

/-! ### What one analysis keeps -/

/-- Analyzing one document leaves a session alike for all others. -/
theorem of_validate (hother : uri ≠ other) (hkeyed : s.Keyed) (trigger : Trigger) (forced : Bool) :
    Alike other s (s.validate w uri trigger forced).session := by
  have htext : uri.text ≠ other.text := Uri.text_ne hother
  obtain ⟨file, d, hfile, hdocument⟩ | hnone := s.openFile_or uri
  · rw [s.validate_eq w trigger forced hfile hdocument hkeyed]
    refine ⟨rfl, ?_, ?_, ?_, rfl, rfl, rfl⟩
    · simp [htext]
    · dsimp only
      split
      · simp [htext]
      · rfl
    · dsimp only
      split
      · simp [htext]
      · rfl
  · rw [s.validate_quiet w trigger forced hnone]
    exact refl other s

/-- Analyzing a document in sessions that are alike for it leaves them so. -/
theorem validate (h : Alike uri s s') (hkeyed : s.Keyed) (hkeyed' : s'.Keyed) (trigger : Trigger)
    (forced : Bool) :
    Alike uri (s.validate w uri trigger forced).session
      (s'.validate w uri trigger forced).session := by
  obtain ⟨file, d, hfile, hdocument⟩ | hnone := s.openFile_or uri
  · obtain rfl := hkeyed.uri_eq hdocument
    rw [s.validate_eq w trigger forced hfile hdocument hkeyed,
      s'.validate_eq w trigger forced hfile (h.document.trans hdocument) hkeyed',
      h.settingsOf_fst, h.isCurrent, h.runs, h.folders]
    refine ⟨h.document, ?_, ?_, ?_, rfl, h.shared, h.asksEditor⟩
    · simp [h.settingsOf_fst]
    · dsimp only
      split
      · simp [h.lintersOf_fst]
      · exact h.linters
    · dsimp only
      split
      · simp
      · exact h.version
  · rw [s.validate_quiet w trigger forced hnone,
      s'.validate_quiet w trigger forced (hnone.imp_right h.document.trans)]
    exact h

/-- The passes that analyzing a document runs are the same in sessions that are alike for it. -/
theorem validate_passes (h : Alike uri s s') (hkeyed : s.Keyed) (hkeyed' : s'.Keyed)
    (trigger : Trigger) (forced : Bool) :
    (s'.validate w uri trigger forced).events.filterMap Event.pass? =
      (s.validate w uri trigger forced).events.filterMap Event.pass? := by
  obtain ⟨file, d, hfile, hdocument⟩ | hnone := s.openFile_or uri
  · obtain rfl := hkeyed.uri_eq hdocument
    rw [Session.validate_passes hkeyed trigger forced hfile hdocument,
      Session.validate_passes hkeyed' trigger forced hfile (h.document.trans hdocument),
      h.settingsOf_fst, h.runs, h.record]
  · rw [s.validate_quiet w trigger forced hnone,
      s'.validate_quiet w trigger forced (hnone.imp_right h.document.trans)]
    rfl

end Alike

/-! ## One after the other -/

namespace Session

variable {w : World} {s : Session} {uri : Uri} {uris : List Uri}

/-- Documents are analyzed under the URIs under which they are kept. -/
theorem validate_keyed (hkeyed : s.Keyed) (uri : Uri) (trigger : Trigger) (forced : Bool) :
    (s.validate w uri trigger forced).session.Keyed :=
  (s.validate_does w uri trigger forced).keyed hkeyed

/-- Analyzing documents leaves a session alike for all others, and runs no passes over them. -/
theorem validateEach_others (hkeyed : s.Keyed) (hother : uri ∉ uris) (trigger : Trigger)
    (forced : Bool) :
    Alike uri s (validateEach w trigger forced s uris).session ∧
      passesOver (validateEach w trigger forced s uris).events uri = [] := by
  induction uris generalizing s with
  | nil => exact ⟨.refl uri s, rfl⟩
  | cons first rest ih =>
    obtain ⟨hfirst, hrest⟩ := not_or.1 fun h => hother (List.mem_cons.2 h)
    have hfirst : first ≠ uri := Ne.symm hfirst
    obtain ⟨halike, hpasses⟩ := ih (validate_keyed hkeyed first trigger forced) hrest
    refine ⟨(Alike.of_validate hfirst hkeyed trigger forced).trans halike, ?_⟩
    change passesOver ((s.validate w first trigger forced).events ++ _) uri = []
    rw [passesOver_append, (Spares.validate hfirst hkeyed trigger forced).passes, hpasses,
      List.append_nil]

/-- Each of some documents is analyzed as if it were the only one. -/
theorem validateEach_alone (hkeyed : s.Keyed) (hnodup : uris.Nodup) (huri : uri ∈ uris)
    (trigger : Trigger) (forced : Bool) :
    Alike uri (s.validate w uri trigger forced).session
        (validateEach w trigger forced s uris).session ∧
      passesOver (validateEach w trigger forced s uris).events uri =
        passesOver (s.validate w uri trigger forced).events uri := by
  induction uris generalizing s with
  | nil => exact absurd huri List.not_mem_nil
  | cons first rest ih =>
    obtain ⟨hfirst, hnodup⟩ := List.nodup_cons.1 hnodup
    have hnext : (s.validate w first trigger forced).session.Keyed :=
      validate_keyed hkeyed first trigger forced
    have hevents : ∀ uri, passesOver (validateEach w trigger forced s (first :: rest)).events uri =
        passesOver (s.validate w first trigger forced).events uri ++
          passesOver (validateEach w trigger forced (s.validate w first trigger forced).session
            rest).events uri := fun uri => passesOver_append _ _ uri
    rw [hevents]
    rcases List.mem_cons.1 huri with rfl | huri
    · -- It is analyzed at once, and the others leave it alone.
      obtain ⟨halike, hpasses⟩ := validateEach_others (w := w) hnext hfirst trigger forced
      exact ⟨halike, by rw [hpasses, List.append_nil]⟩
    · -- The first leaves it alone, so that it is analyzed as it would have been before.
      have hne : first ≠ uri := fun heq => hfirst (heq ▸ huri)
      have hsame : Alike uri s (s.validate w first trigger forced).session :=
        .of_validate hne hkeyed trigger forced
      obtain ⟨halike, hpasses⟩ := ih hnext hnodup huri
      refine ⟨(hsame.validate hkeyed hnext trigger forced).trans halike, ?_⟩
      rw [(Spares.validate hne hkeyed trigger forced).passes, List.nil_append, hpasses]
      unfold passesOver
      rw [hsame.validate_passes hkeyed hnext]

/-! ### The open documents -/

/-- The URIs of the open documents, in the order of their texts. -/
def openUris (s : Session) : List Uri := s.documents.values.map (·.uri)

/-- All open documents are visited, each once. -/
theorem visitedUris_perm (w : World) (s : Session) : (s.visitedUris w).Perm s.openUris :=
  (Table.valuesIn_perm s.documents w.visiting).map _

/-- The texts of the URIs of the open documents are those under which they are kept. -/
theorem map_text_openUris (hkeyed : s.Keyed) : s.openUris.map Uri.text = s.documents.keys := by
  unfold openUris Table.values Table.keys
  rw [List.map_map, List.map_map]
  refine List.map_congr_left fun entry hentry => ?_
  exact hkeyed (Table.mem_entries.1 hentry)

/-- No open document is listed twice. -/
theorem openUris_nodup (hkeyed : s.Keyed) : s.openUris.Nodup := by
  have hkeys : (s.openUris.map Uri.text).Pairwise (· < ·) := by
    rw [map_text_openUris hkeyed]
    exact s.documents.keys_ascending
  refine (List.pairwise_map.1 hkeys).imp fun {first last} hlt heq => ?_
  rw [heq] at hlt
  exact String.lt_irrefl _ hlt

/-- The documents that are listed are the open ones. -/
theorem mem_openUris (hkeyed : s.Keyed) : uri ∈ s.openUris ↔ ∃ d, s.document? uri = some d := by
  constructor
  · intro huri
    obtain ⟨d, hd, rfl⟩ := List.mem_map.1 huri
    obtain ⟨key, hkey⟩ := Table.mem_values.1 hd
    refine ⟨d, ?_⟩
    change s.documents.get? d.uri.text = some d
    rw [hkeyed hkey, hkey]
  · rintro ⟨d, hd⟩
    exact List.mem_map.2 ⟨d, Table.mem_values.2 ⟨_, hd⟩, hkeyed.uri_eq hd⟩

end Session

end LintRelay.Server
