import LintRelay.Proofs.Arguments
import LintRelay.Proofs.Identity
import LintRelay.Proofs.Server.Course

/-!
# What is kept about documents

The server keeps settings and linters for documents, and drops them on different occasions. They
never disagree (`Coherent`): linters that are kept were made from the settings that are kept for the
same document, and from the workspace root of its file; and settings that are not asked of the
editor are those of the workspace. Each act keeps this (`Coherent.act`).

So every linter of a pass has the settings by which the shadow of the document was made, and Clang
is handed a file in every pass (`caches_coherent`).
-/

namespace LintRelay.Server

/-! ## The invariant -/

/-- What is kept about a document belongs together; `W` tells in which worlds linters were made. -/
structure Coherent (W : World → Prop) (s : Session) : Prop where
  /-- Linters were made from the settings of the same document and the root of its file. -/
  linters : ∀ {uri : Uri} {linters : List Linter}, s.linters.get? uri.text = some linters →
    ∃ settings file, s.settings.get? uri.text = some settings ∧ uri.filePath? = some file ∧
      ∃ w, W w ∧ linters = w.host.configure settings (workspaceRoot s.folders file)
  /-- Settings that are not asked of the editor are those of the workspace. -/
  shared : s.asksEditor = false → ∀ {uri : Uri} {settings : Settings},
    s.settings.get? uri.text = some settings → settings = s.shared

namespace Coherent

variable {W : World → Prop} {w : World} {s : Session}

/-- What keeps no settings and no linters belongs together. -/
theorem of_empty (hsettings : s.settings = ∅) (hlinters : s.linters = ∅) : Coherent W s where
  linters h := by simp [hlinters] at h
  shared _ _ _ h := by simp [hsettings] at h

/-- Looking up the settings of a document keeps the invariant. -/
theorem resolve (h : Coherent W s) (uri : Uri) : Coherent W (s.settingsOf w uri).2.session := by
  unfold Session.settingsOf
  cases hkept : s.settings.get? uri.text with
  | some settings => exact h
  | none =>
    dsimp only [Session.send]
    constructor
    case linters =>
      intro other linters hlinters
      obtain ⟨settings, file, hsettings, hfile, hmade⟩ := h.linters hlinters
      -- A document without settings has no linters either, so it is another one.
      have hother : uri.text ≠ other.text := by
        intro htext
        rw [← htext, hkept] at hsettings
        exact absurd hsettings.symm (Option.some_ne_none settings)
      exact ⟨settings, file, by simpa [hother] using hsettings, hfile, hmade⟩
    case shared =>
      intro hasks other settings hsettings
      have hasks : s.asksEditor = false := hasks
      simp only [Table.get?_insert] at hsettings
      split at hsettings
      · rw [hasks] at hsettings
        exact (Option.some.inj hsettings).symm
      · exact h.shared hasks hsettings

/-- Making linters ready with the settings that are kept keeps the invariant. -/
theorem prepare (h : Coherent W s) (hw : W w) {uri : Uri} {file : String} {settings : Settings}
    (hfile : uri.filePath? = some file) (hsettings : s.settings.get? uri.text = some settings) :
    Coherent W (s.lintersOf w uri settings (workspaceRoot s.folders file)).2.session := by
  unfold Session.lintersOf
  split
  · exact h
  · refine ⟨?_, h.shared⟩
    intro other linters hlinters
    replace hlinters : (s.linters.insert uri.text (w.host.configure settings
        (workspaceRoot s.folders file))).get? other.text = some linters := hlinters
    simp only [Table.get?_insert] at hlinters
    split at hlinters
    · next htext =>
      obtain rfl : uri = other := congrArg Uri.mk htext
      exact ⟨settings, file, hsettings, hfile, w, hw, (Option.some.inj hlinters).symm⟩
    · exact h.linters hlinters

/-- Closing a document drops its settings and its linters together. -/
theorem close (h : Coherent W s) (uri : Uri) : Coherent W (s.closed w uri).session where
  linters {other linters} hlinters := by
    have hlinters : (s.linters.erase uri.text).get? other.text = some linters := hlinters
    simp only [Table.get?_erase] at hlinters
    split at hlinters
    · exact absurd hlinters.symm (Option.some_ne_none linters)
    · next htext =>
      obtain ⟨settings, file, hsettings, hmade⟩ := h.linters hlinters
      have hkept : (s.settings.erase uri.text).get? other.text = some settings := by
        simpa [htext] using hsettings
      exact ⟨settings, file, hkept, hmade⟩
  shared hasks {other settings} hsettings := by
    have hsettings : (s.settings.erase uri.text).get? other.text = some settings := hsettings
    simp only [Table.get?_erase] at hsettings
    split at hsettings
    · exact absurd hsettings.symm (Option.some_ne_none settings)
    · exact h.shared hasks hsettings

/-- Every act keeps the invariant. -/
theorem act (h : Coherent W s) (hkeyed : s.Keyed) (hw : W w) {r : Reaction} (hact : Act w s r) :
    Coherent W r.session := by
  cases hact with
  | introduce i hfresh =>
    refine of_empty ?_ ?_
    · change s.settings = ∅
      rw [hfresh]
      rfl
    · change s.linters = ∅
      rw [hfresh]
      rfl
  | greet => exact h
  | store d => exact ⟨h.linters, h.shared⟩
  | resolve uri => exact h.resolve uri
  | prepare hfile hdocument hsettings =>
    obtain rfl := hkeyed.uri_eq hdocument
    exact h.prepare hw hfile hsettings
  | perform _ _ _ _ _ _ _ _ => exact ⟨h.linters, h.shared⟩
  | decline _ _ _ _ _ => exact h
  | await uri version => exact ⟨h.linters, h.shared⟩
  | flush shared => exact of_empty rfl rfl
  | close uri => exact h.close uri
  | elapse milliseconds => exact ⟨h.linters, h.shared⟩

/-- The linters of a pass have the settings of the pass. -/
theorem settings_of_mem (h : Coherent W s) {p : PassRecord} {file : String}
    (hfits : p.Fits w s file) {l : Linter} (hl : l ∈ p.linters) : l.settings = p.settings := by
  obtain ⟨settings, root, hsettings, -, made, -, hmade⟩ := h.linters hfits.linters
  rw [hfits.settings] at hsettings
  rw [hmade] at hl
  rw [Host.settings_of_mem_configure hl]
  exact (Option.some.inj hsettings).symm

end Coherent

/-! ## Files that are handed over -/

/-- A copy is at a path that begins at the root. -/
theorem Scratch.copy?_rooted {scratch : Scratch} {file text path : String}
    (h : scratch.copy? file text = some path) : Path.isRooted path.toList = true := by
  unfold copy? at h
  obtain ⟨-, hpath⟩ := Option.ite_none_right_eq_some.1 h
  rw [← Option.some.inj hpath]
  unfold Path.join
  rw [String.toList_ofList]
  exact Path.joinChars_rooted scratch.rooted _

/-- What begins at the root is not empty. -/
theorem ne_empty_of_rooted {path : String} (h : Path.isRooted path.toList = true) : path ≠ "" := by
  rintro rfl
  exact absurd h (by decide)

/-- There is a shadow exactly under `onType`. -/
theorem World.shadow?_ne_empty {w : World} {settings : Settings} {file text shadow : String}
    (h : w.shadow? settings file text = some shadow) : shadow ≠ "" ↔ settings.run = .onType := by
  unfold shadow? at h
  split at h
  · next htype => exact iff_of_true (ne_empty_of_rooted (Scratch.copy?_rooted h)) htype
  · next htype => exact iff_of_false (fun hne => hne (Option.some.inj h).symm) htype

/-- What Clang reads begins at the root: the shadow under `onType`, and the document otherwise. -/
theorem World.target_rooted {w : World} {settings : Settings} {file text shadow : String}
    (h : w.shadow? settings file text = some shadow) (hfile : Path.isRooted file.toList = true) :
    Path.isRooted (if settings.run = .onType then shadow else file).toList = true := by
  unfold shadow? at h
  split at h
  · next htype =>
    rw [if_pos htype]
    exact Scratch.copy?_rooted h
  · next htype =>
    rw [if_neg htype]
    exact hfile

/-! ## Courses -/

/-- What is kept about documents belongs together in every course. -/
theorem Coherent.course (inputs : List (World × Input)) :
    Coherent (fun w => ∃ input ∈ inputs, input.1 = w) (Course.of inputs).connection.session :=
  Course.keeps (I := fun s _ => Coherent (fun w => ∃ input ∈ inputs, input.1 = w) s)
    (of_empty rfl rfl) (fun hw hkeyed hact h => h.act hkeyed hw hact)
    fun input hinput => ⟨input, hinput, rfl⟩

/-- The linters of a pass were made from the settings of the pass, its document is a file, and it is
handed what there is for that file. -/
theorem settings_of_mem_linters {inputs : List (World × Input)} {p : PassRecord}
    (hp : .passed p ∈ (Course.of inputs).trace) :
    (∀ l ∈ p.linters, l.settings = p.settings) ∧
      ∃ w : World, p.document.uri.filePath? = some p.request.file ∧
        w.shadow? p.settings p.request.file p.document.text = some p.request.shadow := by
  obtain ⟨before, after, hsplit⟩ := List.append_of_mem hp
  obtain ⟨w, hdone⟩ := Course.exists_doneIn hsplit
  refine Course.forall_done (W := fun w => ∃ input ∈ inputs, input.1 = w)
    (I := fun s _ => Coherent (fun w => ∃ input ∈ inputs, input.1 = w) s)
    (Q := fun _ _ e => ∀ p, e = .passed p → (∀ l ∈ p.linters, l.settings = p.settings) ∧
      ∃ w : World, p.document.uri.filePath? = some p.request.file ∧
        w.shadow? p.settings p.request.file p.document.text = some p.request.shadow)
    (Coherent.of_empty rfl rfl) (fun hw hkeyed hact h => h.act hkeyed hw hact) ?_
    (fun input hinput => ⟨input, hinput, rfl⟩) hdone p rfl
  rintro w s r trace - hkeyed hact hcoherent before e after hevents p rfl
  obtain ⟨file, hfits⟩ := hact.fits hkeyed (p := p) (by rw [hevents]; simp)
  obtain ⟨trigger, hrequest⟩ := hfits.request
  have hfile : p.request.file = file := by rw [hrequest]; rfl
  refine ⟨fun l hl => hcoherent.settings_of_mem hfits hl, w, ?_⟩
  rw [hfile]
  exact ⟨hfits.named, hfits.copy⟩

/-- In every course, the linters that are kept for a document were made from the settings that are
kept for it and from the workspace root of its file; settings that are not asked of the editor are
those of the workspace; and in every pass the document has a shadow exactly if the settings of the
linters say `onType`, and then Clang is handed the shadow, and the document otherwise, and never an
empty argument. -/
theorem caches_coherent (inputs : List (World × Input)) :
    (∀ {uri : Uri} {linters : List Linter},
      (Course.of inputs).connection.session.linters.get? uri.text = some linters →
      ∃ settings file,
        (Course.of inputs).connection.session.settings.get? uri.text = some settings ∧
        uri.filePath? = some file ∧ ∃ input ∈ inputs, linters = input.1.host.configure settings
          (workspaceRoot (Course.of inputs).connection.session.folders file)) ∧
    ((Course.of inputs).connection.session.asksEditor = false →
      ∀ {uri : Uri} {settings : Settings},
        (Course.of inputs).connection.session.settings.get? uri.text = some settings →
        settings = (Course.of inputs).connection.session.shared) ∧
    (∀ {p : PassRecord}, .passed p ∈ (Course.of inputs).trace → ∀ l ∈ p.linters,
      (p.request.shadow ≠ "" ↔ l.settings.run = .onType) ∧
      (l.analyzer = .clang → ∃ target ≠ "",
        target = (if l.settings.run = .onType then p.request.shadow else p.request.file) ∧
        (l.arguments p.request.file p.request.shadow).getLast? = some (Path.commandForm target) ∧
        Path.commandForm target ≠ "")) := by
  have hcoherent := Coherent.course inputs
  refine ⟨fun {uri linters} hlinters => ?_, hcoherent.shared, fun {p} hp l hl => ?_⟩
  · obtain ⟨settings, file, hsettings, hfile, w, ⟨input, hinput, rfl⟩, hmade⟩ :=
      hcoherent.linters hlinters
    exact ⟨settings, file, hsettings, hfile, input, hinput, hmade⟩
  · obtain ⟨hmade, w, hfile, hshadow⟩ := settings_of_mem_linters hp
    rw [hmade l hl]
    refine ⟨World.shadow?_ne_empty hshadow, fun hclang => ?_⟩
    obtain ⟨rest, hrest⟩ := Uri.filePath?_rooted hfile
    have hrooted := World.target_rooted hshadow (Path.isRooted_iff.2 ⟨rest, hrest⟩)
    have hhanded : l.handed p.request.file p.request.shadow =
        (if p.settings.run = .onType then p.request.shadow else p.request.file) := by
      unfold Linter.handed Linter.target
      rw [if_pos hclang, hmade l hl]
    refine ⟨_, ne_empty_of_rooted hrooted, rfl, ?_, Path.commandForm_ne_empty hrooted⟩
    rw [Linter.getLast?_arguments, hhanded]

namespace UnsavedText

/-- A world in which Clang is installed. -/
def world : World := .installing "clang" fun _ _ => ⟨some 0, [], []⟩

/-- The document. -/
def document : Document := ⟨⟨"file:///ws/a.c"⟩, "", 1⟩

/-- A document is opened in a workspace whose documents are analyzed while they are edited. -/
def inputs : List (World × Input) :=
  [(world, .introduces ⟨"file:///ws"⟩ (.object [("run", .string "onType")])),
    (world, .opens document)]

end UnsavedText

/-- Clang is handed the shadow of a document that is edited; its linters and settings are kept. -/
theorem clang_handed_shadow :
    ((Course.of UnsavedText.inputs).connection.session.asksEditor = false ∧
      ∃ linters settings file,
        (Course.of UnsavedText.inputs).connection.session.linters.get?
          UnsavedText.document.uri.text = some linters ∧
        (Course.of UnsavedText.inputs).connection.session.settings.get?
          UnsavedText.document.uri.text = some settings ∧
        settings = (Course.of UnsavedText.inputs).connection.session.shared ∧
        ∃ input ∈ UnsavedText.inputs, linters = input.1.host.configure settings
          (workspaceRoot (Course.of UnsavedText.inputs).connection.session.folders file)) ∧
    ∃ p, .passed p ∈ (Course.of UnsavedText.inputs).trace ∧ ∃ l ∈ p.linters, l.analyzer = .clang ∧
      l.settings.run = .onType ∧ p.request.shadow ≠ "" ∧
      (l.arguments p.request.file p.request.shadow).getLast? =
        some (Path.commandForm p.request.shadow) := by
  obtain ⟨hlinters, hshared, hpass⟩ := caches_coherent UnsavedText.inputs
  have hrun : (Course.of UnsavedText.inputs).connection.session.asksEditor = false ∧
      ((Course.of UnsavedText.inputs).connection.session.linters.get?
        UnsavedText.document.uri.text).isSome ∧
      ((Course.of UnsavedText.inputs).trace.filterMap Event.pass?).any (fun p => p.linters.any
        fun l => l.analyzer = .clang && l.settings.run = .onType) = true := by
    decide +kernel
  obtain ⟨hasks, hkept, hclang⟩ := hrun
  constructor
  · obtain ⟨linters, hkept⟩ := Option.isSome_iff_exists.1 hkept
    obtain ⟨settings, file, hsettings, -, hmade⟩ := hlinters hkept
    exact ⟨hasks, linters, settings, file, hkept, hsettings, hshared hasks hsettings, hmade⟩
  · obtain ⟨p, hp, hl⟩ := List.any_eq_true.1 hclang
    obtain ⟨e, he, hpassed⟩ := List.mem_filterMap.1 hp
    obtain rfl := Event.eq_passed hpassed
    obtain ⟨l, hl, hl'⟩ := List.any_eq_true.1 hl
    obtain ⟨hclang, htype⟩ : l.analyzer = .clang ∧ l.settings.run = .onType := by
      simpa using hl'
    obtain ⟨hshadow, hhanded⟩ := hpass he l hl
    obtain ⟨target, -, htarget, hlast, -⟩ := hhanded hclang
    rw [htarget, if_pos htype] at hlast
    exact ⟨p, he, l, hl, hclang, htype, hshadow.2 htype, hlast⟩

end LintRelay.Server
