import LintRelay.Proofs.Stepwise

/-!
# Lines that leave no trace

Between its reports an analyzer prints lines that are none. Here it is shown that they do no harm,
wherever they stand: between a report and its continuation, or between a place and a message that
leaves its place out.

Each reader knows the lines that it passes over (`Analyzer.isNoise`) and the forms of its reports
(`Analyzer.isReport`), and this decides what can come of a line (`Heard`, `Linter.readLine_heard`).
A line that is passed over says nothing and names no place, and so does a line that is no report,
apart from being a fault. Both are inert (`Linter.Inert`), the second only if faults are passed
over, and an inert line can be put anywhere in an output (`Linter.Inert.diagnostics_insert`).

An empty line is always passed over. So all that counts of an output are its other lines
(`ProcessOutput.spoken`), and these depend neither on newlines at the ends of the streams nor on
where one stream ends and the other begins.
-/

namespace LintRelay

/-! ## What readers know of a line -/

/-- A report is not passed over. -/
theorem Report.read_ne_skip (report : Report) (levels : SeverityTable) (source fileName : String)
    (line column : Nat) : report.read levels source fileName line column ≠ .skip := by
  unfold Report.read
  split <;> simp

namespace Analyzer

/-- Whether an analyzer's reader passes over a line. -/
def isNoise (a : Analyzer) (cs : List Char) : Bool :=
  match a with
  | .clang => Clang.isNoise cs
  | .cppCheck => CppCheck.isNoise cs
  | .flexelint => Flexelint.isNoise cs
  | .pclintPlus => PclintPlus.isNoise cs
  | .flawFinder => FlawFinder.isNoise cs
  | .lizard => cs = []

/-- Whether a line has one of the forms of an analyzer's reports. -/
def isReport (a : Analyzer) (cs : List Char) : Bool :=
  match a with
  | .clang => (Clang.inclusion? cs).isSome || (Clang.report? cs).isSome
  | .cppCheck => (CppCheck.report? cs).isSome
  | .flexelint => (Flexelint.report? cs).isSome
  | .pclintPlus => (PclintPlus.report? cs).isSome
  | .flawFinder => (FlawFinder.report? cs).isSome
  | .lizard => (Lizard.report? cs).isSome

end Analyzer

/-- What can come of a line, with the place to remember after it: it is passed over, or it is not
understood since it is no report, or it is a report. Only a report can name a place. -/
inductive Heard (noise report : Bool) (line : String) (last : Option Location) :
    Reading × Option Location → Prop
  /-- The line is passed over. -/
  | noise (hnoise : noise = true) : Heard noise report line last (.skip, last)
  /-- The line is no report. -/
  | unknown (hnoise : noise = false) (hreport : report = false) :
    Heard noise report line last (.fault (.form line), last)
  /-- The line is a report. -/
  | report {reading : Reading} {place : Option Location} (hnoise : noise = false)
    (hreport : report = true) (hreading : reading ≠ .skip) :
    Heard noise report line last (reading, place)

namespace Heard

variable {noise report : Bool} {line : String} {last : Option Location}
  {result : Reading × Option Location}

/-- A line that is passed over says nothing. -/
theorem eq_of_noise (h : Heard noise report line last result) (hnoise : noise = true) :
    result = (.skip, last) := by
  subst hnoise
  cases h with
  | noise => rfl
  | unknown hnoise => cases hnoise
  | report hnoise => cases hnoise

/-- Only a line that is passed over says nothing. -/
theorem noise_of_skip (h : Heard noise report line last result) (hskip : result.1 = .skip) :
    noise = true := by
  cases h with
  | noise hnoise => exact hnoise
  | unknown => cases hskip
  | report _ _ hreading => exact absurd hskip hreading

/-- A line that is no report says nothing, or it is not understood. -/
theorem eq_of_not_report (h : Heard noise report line last result) (hreport : report = false) :
    result = (.skip, last) ∨ result = (.fault (.form line), last) := by
  subst hreport
  cases h with
  | noise => exact .inl rfl
  | unknown => exact .inr rfl
  | report _ hreport => cases hreport

/-- What comes of a line whose reports are all read in the same way. -/
theorem of_report? {found : Option Report} {read : Report → Reading}
    (hread : ∀ r, read r ≠ .skip) (line : String) (last : Option Location) :
    Heard noise found.isSome line last
      (if noise then .skip
        else match found with
          | none => .fault (.form line)
          | some r => read r, last) := by
  cases noise with
  | true => exact .noise rfl
  | false =>
    cases found with
    | none => exact .unknown rfl rfl
    | some r => exact .report rfl rfl (hread r)

end Heard

namespace Linter

variable {l : Linter} {file shadow line : String}

/-- What comes of a line of output. -/
theorem readLine_heard (l : Linter) (file shadow : String) (last : Option Location)
    (line : String) :
    Heard (l.analyzer.isNoise line.toList) (l.analyzer.isReport line.toList) line last
      (l.readLine file shadow last line) := by
  unfold readLine Analyzer.isNoise Analyzer.isReport
  cases l.analyzer with
  | clang =>
    dsimp only
    unfold Clang.read
    dsimp only
    -- There are two forms of reports, and notes on included files come first.
    cases Clang.isNoise line.toList with
    | true => exact .noise rfl
    | false =>
      cases Clang.inclusion? line.toList with
      | some note => exact .report rfl rfl (by simp)
      | none =>
        cases Clang.report? line.toList with
        | none => exact .unknown rfl rfl
        | some report => exact .report rfl rfl (report.read_ne_skip _ _ _ _ _)
  | cppCheck => exact .of_report? (fun _ => Report.read_ne_skip _ _ _ _ _ _) line last
  | flexelint => exact .of_report? (fun _ => Report.read_ne_skip _ _ _ _ _ _) line last
  | pclintPlus =>
    dsimp only
    unfold PclintPlus.read
    dsimp only
    cases PclintPlus.isNoise line.toList with
    | true => exact .noise rfl
    | false =>
      cases PclintPlus.report? line.toList with
      | none => exact .unknown rfl rfl
      | some report =>
        -- A report may be without a place, and then it is a fault.
        rw [if_neg Bool.false_ne_true]
        dsimp only
        split
        · exact .report rfl rfl (by simp)
        · exact .report rfl rfl (Report.read_ne_skip _ _ _ _ _ _)
  | flawFinder => exact .of_report? (fun _ => Report.read_ne_skip _ _ _ _ _ _) line last
  | lizard =>
    dsimp only
    unfold Lizard.read
    by_cases hempty : line = ""
    · rw [if_pos hempty]
      exact .noise (by simp [hempty])
    · have hnoise : decide (line.toList = []) = false := by simpa using hempty
      rw [if_neg hempty]
      cases Lizard.report? line.toList with
      | none => exact .unknown hnoise rfl
      | some report => exact .report hnoise rfl (by simp)

/-! ## Inert lines -/

/-- A line that leaves no trace in what a linter reports: it is no diagnostic and names no place,
and if it is a fault, this is passed over. -/
structure Inert (l : Linter) (file shadow line : String) : Prop where
  /-- It names no place. -/
  place : ∀ last, (l.readLine file shadow last line).2 = last
  /-- It is no diagnostic. -/
  silent : ∀ last, (l.readLine file shadow last line).1.diagnostic? = none
  /-- It is no fault, or faults are passed over. -/
  harmless : l.settings.ignoreParseErrors = true ∨
    ∀ last, (l.readLine file shadow last line).1.fault? = none

/-- A line that is passed over is inert. -/
theorem inert_of_skip {last : Option Location} (h : (l.readLine file shadow last line).1 = .skip) :
    l.Inert file shadow line := by
  -- That it is passed over is decided by the line alone, so that it is wherever it stands.
  have hnoise := (l.readLine_heard file shadow last line).noise_of_skip h
  have hread : ∀ last, l.readLine file shadow last line = (.skip, last) := fun last =>
    (l.readLine_heard file shadow last line).eq_of_noise hnoise
  refine ⟨fun last => ?_, fun last => ?_, .inr fun last => ?_⟩
  · rw [hread]
  · rw [hread]
    rfl
  · rw [hread]
    rfl

/-- A line that is no report is inert, if faults are passed over. -/
theorem inert_of_not_isReport (hlenient : l.settings.ignoreParseErrors = true)
    (h : l.analyzer.isReport line.toList = false) : l.Inert file shadow line := by
  have hread : ∀ last, l.readLine file shadow last line = (.skip, last) ∨
      l.readLine file shadow last line = (.fault (.form line), last) := fun last =>
    (l.readLine_heard file shadow last line).eq_of_not_report h
  refine ⟨fun last => ?_, fun last => ?_, .inl hlenient⟩
  · rcases hread last with heq | heq <;> rw [heq]
  · rcases hread last with heq | heq <;> rw [heq] <;> rfl

/-- A reading that is no diagnostic changes no answer, unless it is a fault that counts. -/
theorem verdict_insert (held : Option Diagnostic) (earlier later : List Reading) {reading : Reading}
    (hsilent : reading.diagnostic? = none)
    (hharmless : l.settings.ignoreParseErrors = true ∨ reading.fault? = none) :
    l.verdict held (earlier ++ reading :: later) = l.verdict held (earlier ++ later) := by
  have hdiagnostics : (earlier ++ reading :: later).filterMap Reading.diagnostic? =
      (earlier ++ later).filterMap Reading.diagnostic? := by
    rw [List.filterMap_append, List.filterMap_cons_none hsilent, List.filterMap_append]
  unfold verdict
  rw [hdiagnostics]
  rcases hharmless with hlenient | hfault
  · rw [hlenient]
  · have hfaults : (earlier ++ reading :: later).findSome? Reading.fault? =
        (earlier ++ later).findSome? Reading.fault? := by
      rw [List.findSome?_append, List.findSome?_cons, hfault, List.findSome?_append]
    rw [hfaults]

/-- An inert line can be put anywhere in an output. -/
theorem Inert.diagnostics_insert (h : l.Inert file shadow (stripQuotes line))
    (before after : List String) :
    l.diagnostics file shadow (before ++ line :: after) =
      l.diagnostics file shadow (before ++ after) := by
  rw [diagnostics_eq_verdict, diagnostics_eq_verdict]
  unfold readings
  -- What follows the line is read as if it were not there, since it names no place.
  rw [List.map_append, List.map_cons, List.map_append, readFrom_split, h.place, readFrom_append]
  exact verdict_insert none _ _ (h.silent _) (h.harmless.imp_right fun hfault => hfault _)

end Linter

/-! ## Outputs -/

/-- A newline stands between the lines before it and those after it. -/
theorem outputLines_append (a b : String) :
    outputLines (a ++ "\n" ++ b) = outputLines a ++ outputLines b := by
  have htext : (a ++ "\n" ++ b).toList = a.toList ++ '\n' :: b.toList := by simp
  unfold outputLines
  rw [htext, List.splitOn_append_cons_self, List.map_append]

/-- Newlines at the end make empty lines. -/
theorem outputLines_newlines (text : String) (n : Nat) :
    outputLines (text ++ String.ofList (List.replicate n '\n')) =
      outputLines text ++ List.replicate n "" := by
  induction n with
  | zero => simp
  | succ n ih =>
    have htext : text ++ String.ofList (List.replicate (n + 1) '\n') =
        text ++ String.ofList (List.replicate n '\n') ++ "\n" ++ "" := by
      rw [List.replicate_succ', String.ofList_append]
      simp [String.append_assoc]
    have hempty : outputLines "" = [""] := rfl
    rw [htext, outputLines_append, ih, hempty, List.replicate_succ', List.append_assoc]

namespace ProcessOutput

/-- The lines of an output that are not empty. -/
def spoken (output : ProcessOutput) : List String := output.lines.filter (· ≠ "")

/-- An output with newlines after each stream. -/
def followed (m n : Nat) (output : ProcessOutput) : ProcessOutput where
  status := output.status
  stdout := output.stdout ++ String.ofList (List.replicate m '\n')
  stderr := output.stderr ++ String.ofList (List.replicate n '\n')

/-- An output with all its lines in one stream. -/
def joined (output : ProcessOutput) : ProcessOutput where
  status := output.status
  stdout := output.stdout ++ "\n" ++ output.stderr
  stderr := ""

/-- Newlines at the ends of the streams say nothing. -/
theorem spoken_followed (m n : Nat) (output : ProcessOutput) :
    (output.followed m n).spoken = output.spoken := by
  have hempty : ∀ k, (List.replicate k "").filter (fun line => decide (line ≠ "")) = [] := by
    intro k
    rw [List.filter_replicate_of_neg (by simp)]
  unfold spoken lines followed
  rw [outputLines_newlines, outputLines_newlines]
  simp only [List.filter_append, hempty, List.append_nil]

/-- In one stream or in two, the lines say the same. -/
theorem spoken_joined (output : ProcessOutput) : output.joined.spoken = output.spoken := by
  have hempty : outputLines "" = [""] := rfl
  unfold spoken lines joined
  rw [outputLines_append, hempty, List.filter_append]
  simp

end ProcessOutput

namespace Linter

variable {l : Linter} {file shadow : String}

/-- Whether a line of output says nothing to a linter, wherever its reader stands. -/
def Skips (l : Linter) (file shadow line : String) : Prop :=
  ∃ last, (l.readLine file shadow last (stripQuotes line)).1 = .skip

/-- An empty line says nothing. -/
theorem skips_empty (l : Linter) (file shadow : String) : l.Skips file shadow "" :=
  ⟨none, l.readOutput_empty file shadow⟩

/-- Only lines that are not empty count. -/
theorem diagnostics_filter (before lines : List String) :
    l.diagnostics file shadow (before ++ lines.filter (· ≠ "")) =
      l.diagnostics file shadow (before ++ lines) := by
  induction lines generalizing before with
  | nil => rfl
  | cons line rest ih =>
    by_cases hline : line = ""
    · subst hline
      obtain ⟨last, hskip⟩ := l.skips_empty file shadow
      rw [List.filter_cons_of_neg (by simp), ih, (inert_of_skip hskip).diagnostics_insert]
    · rw [List.filter_cons_of_pos (by simpa using hline), List.append_cons, ih,
        ← List.append_cons]

/-- A run reports the same if its output is rearranged so that the lines that count stay the
same. -/
theorem lint_map {rearrange : ProcessOutput → ProcessOutput}
    (h : ∀ output, (rearrange output).spoken = output.spoken) (runner : Runner)
    (directory : String) :
    l.lint (fun call => (runner call).map rearrange) file shadow directory =
      l.lint runner file shadow directory := by
  unfold lint
  cases l.call? file shadow directory with
  | none => rfl
  | some call =>
    dsimp only
    cases runner call with
    | error failure => rfl
    | ok output =>
      have hspoken : ∀ lines, l.diagnostics file shadow (lines.filter (· ≠ "")) =
          l.diagnostics file shadow lines := diagnostics_filter []
      calc l.diagnostics file shadow (rearrange output).lines
        _ = l.diagnostics file shadow (rearrange output).spoken := (hspoken _).symm
        _ = l.diagnostics file shadow output.spoken := by rw [h]
        _ = l.diagnostics file shadow output.lines := hspoken _

/-- Lines that say nothing leave no trace. An output reports the same with such a line put in
anywhere, and an empty line is one. If faults are passed over, the same holds of every line that has
none of the forms of a report. So a run reports the same with newlines after either stream, and with
all lines in one stream. -/
theorem noise_leaves_no_trace (l : Linter) (file shadow : String) :
    (∀ before line after, l.Skips file shadow line →
      l.diagnostics file shadow (before ++ line :: after) =
        l.diagnostics file shadow (before ++ after)) ∧
    l.Skips file shadow "" ∧
    (l.settings.ignoreParseErrors = true → ∀ before line after,
      l.analyzer.isReport (stripQuotes line).toList = false →
      l.diagnostics file shadow (before ++ line :: after) =
        l.diagnostics file shadow (before ++ after)) ∧
    ∀ (runner : Runner) (directory : String),
      (∀ m n, l.lint (fun call => (runner call).map (·.followed m n)) file shadow directory =
        l.lint runner file shadow directory) ∧
      l.lint (fun call => (runner call).map (·.joined)) file shadow directory =
        l.lint runner file shadow directory := by
  refine ⟨?_, l.skips_empty file shadow, ?_, fun runner directory => ⟨fun m n => ?_, ?_⟩⟩
  · rintro before line after ⟨last, hskip⟩
    exact (inert_of_skip hskip).diagnostics_insert before after
  · intro hlenient before line after hreport
    exact (inert_of_not_isReport hlenient hreport).diagnostics_insert before after
  · exact lint_map (ProcessOutput.spoken_followed m n) runner directory
  · exact lint_map ProcessOutput.spoken_joined runner directory

namespace Scraps

/-- Flexelint with the settings that it has at first. -/
def flexelint : Linter := .make .flexelint .initial ∅ "/ws"

/-- PC-lint Plus with settings that pass over faults. -/
def pclintPlus : Linter := (Linter.make .pclintPlus .initial ∅ "/ws").inMode true

end Scraps

open Scraps in
/-- A report keeps its continuation although a line stands between them that is passed over, and a
message its place across a line that is no report. -/
theorem scraps_leave_no_trace :
    flexelint.Skips "" "" "\"  File b.c line 3\"" ∧
    (flexelint.diagnostics "" "" ["a.c  10 0  Warning 613: w", "\"  File b.c line 3\"",
      "a.c  42 0  Info 830: Location of symbol 'p'"]).toOption =
        some [⟨"a.c", 41, 0, .warning, some "613", "w", "Flexelint"⟩] ∧
    pclintPlus.analyzer.isReport "b.c: no such file".toList = false ∧
    (pclintPlus.diagnostics "" "" ["a.c  3 0  info 713: i", "b.c: no such file",
      "  0 0  note 974: s"]).toOption =
        some [⟨"a.c", 2, 0, .information, some "713", "i", "PclintPlus"⟩,
          ⟨"a.c", 2, 0, .hint, some "974", "s", "PclintPlus"⟩] := by
  have hskip : flexelint.Skips "" "" "\"  File b.c line 3\"" := ⟨none, by decide +kernel⟩
  have hreport : pclintPlus.analyzer.isReport "b.c: no such file".toList = false := by
    decide +kernel
  obtain ⟨hinsert, -, -, -⟩ := noise_leaves_no_trace flexelint "" ""
  obtain ⟨-, -, hlenient, -⟩ := noise_leaves_no_trace pclintPlus "" ""
  refine ⟨hskip, ?_, hreport, ?_⟩
  · rw [show ["a.c  10 0  Warning 613: w", "\"  File b.c line 3\"",
        "a.c  42 0  Info 830: Location of symbol 'p'"] = ["a.c  10 0  Warning 613: w"] ++
          "\"  File b.c line 3\"" :: ["a.c  42 0  Info 830: Location of symbol 'p'"] from rfl,
      hinsert _ _ _ hskip]
    decide +kernel
  · rw [show ["a.c  3 0  info 713: i", "b.c: no such file", "  0 0  note 974: s"] =
        ["a.c  3 0  info 713: i"] ++ "b.c: no such file" :: ["  0 0  note 974: s"] from rfl,
      hlenient rfl _ _ _ (by decide +kernel)]
    decide +kernel

end Linter

end LintRelay
