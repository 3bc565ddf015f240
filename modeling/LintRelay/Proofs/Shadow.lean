import LintRelay.Proofs.Arguments
import LintRelay.Proofs.Colons
import LintRelay.Proofs.Stepwise

/-!
# Reports on a shadow

While a document is edited, Clang reads a shadow of it, and what it reports on the shadow belongs to
the document. Here it is shown that nothing of the shadow is left in the diagnostics.

With a shadow or without, a line is read as the same report. A report always names a file
(`Clang.ne_nil_of_report?`, `Clang.ne_nil_of_inclusion?`), and only this name is looked at: if it is
that of the shadow, in the form in which it was made or in the one that Clang is handed, the name of
the document is put in its place (`Clang.read_eq_rename`). The form that Clang is handed is the last
argument on its command line (`Linter.getLast?_commandLine`), so that the two sides agree on it.
-/

namespace LintRelay

/-- A reading with another name for the file of its diagnostic. -/
def Reading.rename (names : String → String) : Reading → Reading
  | .skip => .skip
  | .fault reason => .fault reason
  | .diagnostic d => .diagnostic { d with fileName := names d.fileName }

/-- A report is read under the name that it is given. -/
theorem Report.read_rename (r : Report) (levels : SeverityTable) (source fileName : String)
    (line column : Nat) (names : String → String) :
    (r.read levels source fileName line column).rename names =
      r.read levels source (names fileName) line column := by
  unfold Report.read
  split <;> rfl

namespace Clang

/-- The name that stands for a reported one: that of the document for both names of its shadow. -/
def attributed (file shadow name : String) : String :=
  if name = shadow ∨ name = Path.commandForm shadow then file else name

variable {file shadow : String}

/-- A note on included files names a file. -/
theorem ne_nil_of_inclusion? {cs included number : List Char}
    (h : inclusion? cs = some (included, number)) : included ≠ [] := by
  obtain ⟨rest, -, hhead⟩ := Option.bind_eq_some_iff.1 h
  exact Text.ne_nil_of_shortestHead hhead

/-- A report names a file. -/
theorem ne_nil_of_report? {cs : List Char} {r : Report} (h : report? cs = some r) :
    r.file ≠ [] := by
  obtain ⟨⟨name, tail⟩, hhead, rfl⟩ := Option.map_eq_some_iff.1 h
  exact Text.ne_nil_of_shortestHead hhead

/-- The name that is put in place of a reported one. -/
theorem realFile_eq {name : List Char} (h : name ≠ []) (file shadow : String) :
    realFile file shadow (String.ofList name) = attributed file shadow (String.ofList name) := by
  have hne : String.ofList name ≠ "" := fun hempty => h (by simpa using hempty)
  unfold realFile attributed
  simp only [ne_eq, hne, not_false_eq_true, true_and]

/-- With a shadow a line is read as without one, but for the name of the file. -/
theorem read_eq_rename (levels : SeverityTable) (file other shadow line : String) :
    read levels file shadow line =
      (read levels other "" line).rename (attributed file shadow) := by
  unfold read
  dsimp only
  split
  · rfl
  · cases hinclusion : inclusion? line.toList with
    | some note =>
      obtain ⟨included, number⟩ := note
      dsimp only
      rw [realFile_eq (ne_nil_of_inclusion? hinclusion), realFile_empty]
      rfl
    | none =>
      dsimp only
      cases hreport : report? line.toList with
      | none => rfl
      | some r =>
        dsimp only
        rw [realFile_eq (ne_nil_of_report? hreport), realFile_empty, Report.read_rename]

/-- A name that stands for another one is a name of the shadow only if the document has it. -/
theorem eq_of_attributed_eq {name : String}
    (h : attributed file shadow name = shadow ∨
      attributed file shadow name = Path.commandForm shadow) :
    file = attributed file shadow name := by
  unfold attributed at h ⊢
  split
  · rfl
  · next hname =>
    rw [if_neg hname] at h
    exact absurd h hname

end Clang

namespace Linter

variable {l : Linter} {file shadow : String}

/-- The last word of a command line is the file that is handed over. -/
theorem getLast?_commandLine (l : Linter) (file shadow : String) :
    (l.commandLine file shadow).getLast? = some (Path.commandForm (l.handed file shadow)) := by
  unfold commandLine
  rw [List.getLast?_cons, l.getLast?_arguments, Option.getD_some]

/-- Clang is handed the shadow of a document that is edited. -/
theorem handed_onType (hl : l.analyzer = .clang) (hrun : l.settings.run = .onType) :
    l.handed file shadow = shadow := by
  unfold handed target
  rw [if_pos hl, if_pos hrun]

/-- A line of Clang is read on its own. -/
theorem readLine_clang (hl : l.analyzer = .clang) (file shadow : String) (last : Option Location)
    (line : String) :
    (l.readLine file shadow last line).1 =
      Clang.read l.settings.clang.severityLevels file shadow line := by
  unfold readLine
  rw [hl]

/-- What a line of Clang says, with a shadow and without. -/
theorem readLine_rename (hl : l.analyzer = .clang) (file other shadow : String)
    (last : Option Location) (line : String) :
    (l.readLine file shadow last line).1 =
      (l.readLine other "" last line).1.rename (Clang.attributed file shadow) := by
  rw [readLine_clang hl, readLine_clang hl]
  exact Clang.read_eq_rename _ file other shadow line

/-- With a shadow an output gives the same diagnostics as without one, but for the names of the
files. -/
theorem diagnostics_rename (hl : l.analyzer = .clang) (file other shadow : String)
    (lines : List String) :
    l.diagnostics file shadow lines = (l.diagnostics other "" lines).map (List.map fun d =>
      { d with fileName := Clang.attributed file shadow d.fileName }) := by
  have hlinewise : l.analyzer.isLinewise = true := by rw [hl]; rfl
  have hreadings : l.readings file shadow lines =
      (l.readings other "" lines).map (Reading.rename (Clang.attributed file shadow)) := by
    rw [readings_linewise hlinewise, readings_linewise hlinewise, List.map_map]
    exact List.map_congr_left fun line _ =>
      readLine_rename hl file other shadow none (stripQuotes line)
  rw [diagnostics_eq_verdict, diagnostics_eq_verdict, hreadings]
  generalize l.readings other "" lines = readings
  -- Faults stay as they are, and nothing is held back.
  have hfaults : (readings.map (Reading.rename (Clang.attributed file shadow))).findSome?
      Reading.fault? = readings.findSome? Reading.fault? := by
    rw [List.findSome?_map]
    congr 1
    funext reading
    cases reading <;> rfl
  have hdiagnostics : (readings.map (Reading.rename (Clang.attributed file shadow))).filterMap
      Reading.diagnostic? = (readings.filterMap Reading.diagnostic?).map fun d =>
        { d with fileName := Clang.attributed file shadow d.fileName } := by
    rw [List.filterMap_map, List.map_filterMap]
    congr 1
    funext reading
    cases reading <;> rfl
  unfold verdict
  rw [hfaults, hdiagnostics, Analyzer.stitch_linewise hlinewise, Analyzer.stitch_linewise hlinewise]
  split <;> rfl

/-- Nothing of a shadow is left in what Clang reports. With a shadow, a line and a whole output are
read as without one, but that the name of the document stands for the two names of the shadow. While
a document is edited, the last word of the command line is the form of the shadow that Clang is
handed. What is reported on this path is read as a report on the document, which holds of reports as
of notes on included files. And no diagnostic bears a name of the shadow, unless it is the name of
the document. -/
theorem shadow_stands_for_document {l : Linter} (hl : l.analyzer = .clang)
    (file other shadow : String) :
    (∀ last line, (l.readLine file shadow last line).1 =
      (l.readLine other "" last line).1.rename fun name =>
        if name = shadow ∨ name = Path.commandForm shadow then file else name) ∧
    (∀ lines, l.diagnostics file shadow lines =
      (l.diagnostics other "" lines).map (List.map fun d => { d with
        fileName := if d.fileName = shadow ∨ d.fileName = Path.commandForm shadow then file
          else d.fileName })) ∧
    (l.settings.run = .onType →
      (l.commandLine file shadow).getLast? = some (Path.commandForm shadow)) ∧
    ∀ path, l.settings.run = .onType → (l.commandLine file shadow).getLast? = some path →
      (∀ last line d, (l.readLine other "" last line).1 = .diagnostic d → d.fileName = path →
        (l.readLine file shadow last line).1 = .diagnostic { d with fileName := file }) ∧
      (∀ last m, Clang.Legible m l.settings.clang.severityLevels → m.file = path →
        (l.readLine file shadow last (Clang.printed m)).1 =
          .diagnostic { m.diagnostic .clang (m.column.getD 0 - 1) with
            fileName := file, code := none }) ∧
      (∀ last number, Clang.IsName path.toList → number < Text.wordBound →
        (l.readLine file shadow last (Clang.inclusionNote path number)).1 =
          .diagnostic (Clang.inclusionDiagnostic file number)) ∧
      ∀ last line d, (l.readLine file shadow last line).1 = .diagnostic d →
        d.fileName = shadow ∨ d.fileName = path → file = d.fileName := by
  have hhanded : l.settings.run = .onType →
      (l.commandLine file shadow).getLast? = some (Path.commandForm shadow) := fun hrun => by
    rw [l.getLast?_commandLine, handed_onType hl hrun]
  refine ⟨readLine_rename hl file other shadow, diagnostics_rename hl file other shadow, hhanded,
    fun path hrun hpath => ?_⟩
  obtain rfl : Path.commandForm shadow = path := Option.some.inj ((hhanded hrun).symm.trans hpath)
  -- A report on the path is one on the document, in whatever form it comes.
  have hreported : ∀ last line d, (l.readLine other "" last line).1 = .diagnostic d →
      d.fileName = Path.commandForm shadow →
      (l.readLine file shadow last line).1 = .diagnostic { d with fileName := file } := by
    intro last line d hread hname
    have hfile : Clang.attributed file shadow d.fileName = file := if_pos (.inr hname)
    rw [readLine_rename hl file other shadow, hread, Reading.rename, hfile]
  refine ⟨hreported, fun last m hm hfile => ?_, fun last number hname hnumber => ?_, ?_⟩
  · refine hreported last (Clang.printed m)
      { m.diagnostic .clang (m.column.getD 0 - 1) with code := none } ?_ hfile
    rw [readLine_clang hl]
    exact hm.read_eq other
  · refine hreported last (Clang.inclusionNote _ number)
      (Clang.inclusionDiagnostic (Path.commandForm shadow) number) ?_ rfl
    rw [readLine_clang hl]
    exact Clang.read_inclusionNote _ other hname hnumber
  · intro last line d hread hname
    rw [readLine_rename hl file other shadow] at hread
    cases hplain : (l.readLine other "" last line).1 with
    | skip =>
      rw [hplain] at hread
      cases hread
    | fault reason =>
      rw [hplain] at hread
      cases hread
    | diagnostic e =>
      rw [hplain] at hread
      obtain rfl := Reading.diagnostic.inj hread
      exact Clang.eq_of_attributed_eq hname

namespace Typed

/-- Clang for documents that are edited. -/
def linter : Linter := .make .clang { Settings.initial with run := .onType } ∅ "/ws"

/-- The shadow of a document, on a drive. -/
def copy : String := "C:\\tmp\\\\x y.c"

/-- A remark on the shadow, under the name that Clang is handed. -/
def remark : Remark := ⟨"C:/tmp/x y.c", 3, some 1, "error", .error, "", "C:/tmp/x y.c:1:2: note: n"⟩

end Typed

open Typed in
/-- What Clang reports on a shadow is read as a report on the document, and so is a note on what it
includes, although the path that Clang is handed is not the one that was made. -/
theorem typed_text_reported_on_document :
    (linter.commandLine "/ws/a.c" copy).getLast? = some "C:/tmp/x y.c" ∧
    Clang.printed remark = "C:/tmp/x y.c:3:1: error: C:/tmp/x y.c:1:2: note: n" ∧
    (linter.readLine "/ws/a.c" copy none (Clang.printed remark)).1 = .diagnostic
      ⟨"/ws/a.c", 2, 0, .error, none, "C:/tmp/x y.c:1:2: note: n", "Clang"⟩ ∧
    (linter.readLine "/ws/a.c" copy none (Clang.inclusionNote "C:/tmp/x y.c" 1)).1 =
      .diagnostic (Clang.inclusionDiagnostic "/ws/a.c" 1) ∧
    ∀ d, (linter.readLine "/ws/a.c" copy none (Clang.printed remark)).1 = .diagnostic d →
      d.fileName ≠ copy ∧ d.fileName ≠ "C:/tmp/x y.c" := by
  have hname : Clang.IsName "C:/tmp/x y.c".toList := ⟨by decide, by decide, by decide⟩
  have hlegible : Clang.Legible remark linter.settings.clang.severityLevels :=
    ⟨⟨by decide, by decide, by decide, by decide +kernel, by decide⟩, by decide, hname,
      by decide +kernel⟩
  have hhanded : (linter.commandLine "/ws/a.c" copy).getLast? = some "C:/tmp/x y.c" := by
    decide +kernel
  obtain ⟨-, -, -, hpath⟩ := shadow_stands_for_document (l := linter) rfl "/ws/a.c" "" copy
  obtain ⟨-, hprinted, hnote, hnone⟩ := hpath _ rfl hhanded
  refine ⟨hhanded, by decide +kernel, hprinted none remark hlegible rfl,
    hnote none 1 hname (by decide), fun d hread => ⟨fun heq => ?_, fun heq => ?_⟩⟩
  · exact absurd ((hnone none _ d hread (.inl heq)).trans heq) (by decide)
  · exact absurd ((hnone none _ d hread (.inr heq)).trans heq) (by decide)

end Linter

end LintRelay
