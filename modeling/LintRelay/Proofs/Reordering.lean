import LintRelay.Proofs.Output
import LintRelay.Proofs.Pass

/-!
# Passes in another order

What a pass finds does not depend on the order in which its linters are listed, and for the
analyzers that read every line on its own (`Analyzer.isLinewise`) not on the order of the lines they
print, on repeats, or on the stream that a line is printed to.

The proof goes from a line to a pass. A linter of this kind reads a list of lines one by one
(`Linter.readings_linewise`) and holds nothing back (`Analyzer.stitch_linewise`), so that outputs
with the same lines have the same readings (`mem_readings_congr`) and give the same answer up to
order (`diagnostics_sameAnswer`). A pass looks only at which diagnostics there are
(`Pass.files_congr`), since of every class of doubles it keeps the least one. An empty line says
nothing to any linter, which makes room for newlines at the ends of the streams.
-/

namespace LintRelay

/-! ## Reading line by line -/

/-- Whether an analyzer's output says the same in any order: every line is read on its own. -/
def Analyzer.isLinewise : Analyzer → Bool
  | .clang | .cppCheck | .flawFinder | .lizard => true
  | .flexelint | .pclintPlus => false

/-- Nothing is held back for the line after. -/
theorem Analyzer.stitch_linewise {a : Analyzer} (ha : a.isLinewise = true)
    (held : Option Diagnostic) (diagnostics : List Diagnostic) :
    a.stitch held diagnostics = held.toList ++ diagnostics := by
  have hamend : ∀ (held : Option Diagnostic) (d : Diagnostic), a.amend held d = (held, some d) := by
    intro held d
    cases a with
    | clang | cppCheck | flawFinder | lizard => rfl
    | flexelint | pclintPlus => cases ha
  induction diagnostics generalizing held with
  | nil => rw [stitch, List.append_nil]
  | cons d rest ih =>
    rw [stitch, hamend]
    dsimp only
    rw [ih]
    rfl

namespace Linter

/-- The lines of an analyzer that holds nothing back are read one by one. -/
theorem readings_linewise {l : Linter} (hl : l.analyzer.isLinewise = true) (file shadow : String)
    (lines : List String) :
    l.readings file shadow lines = lines.map (l.readOutput file shadow) := by
  refine readings_eq_map (fun h => ?_) file shadow lines
  rw [h] at hl
  cases hl

end Linter

/-! ## Output with the same lines -/

/-- Two outputs have the same lines, in any order, each any number of times, and in either stream.
Empty lines do not count: a stream that ends with a newline, or that is empty, has one. -/
def ProcessOutput.SameLines (output other : ProcessOutput) : Prop :=
  ∀ line, line ≠ "" → (line ∈ output.lines ↔ line ∈ other.lines)

/-- Two answers of a linter give the same diagnostics, or both are failures. Failures may differ
only in the line that is not understood, if the settings do not pass over such lines. -/
def Linter.SameAnswer (l : Linter) : (answer other : Except Failure (List Diagnostic)) → Prop
  | .ok diagnostics, .ok others => ∀ d, d ∈ diagnostics ↔ d ∈ others
  | .error failure, .error other => failure = other ∨ l.settings.ignoreParseErrors = false ∧
      ∃ fault fault' : LineFault, failure = .parse fault.message ∧ other = .parse fault'.message
  | .ok _, .error _ | .error _, .ok _ => False

namespace Linter

/-- Outputs with the same lines have the same readings, apart from what says nothing. -/
theorem mem_readings_congr {l : Linter} (hl : l.analyzer.isLinewise = true)
    {output other : ProcessOutput} (h : output.SameLines other) {file shadow : String}
    {reading : Reading} (hreading : reading ≠ .skip) :
    reading ∈ l.readings file shadow output.lines ↔
      reading ∈ l.readings file shadow other.lines := by
  rw [readings_linewise hl, readings_linewise hl, List.mem_map, List.mem_map]
  have hline : ∀ line, l.readOutput file shadow line = reading → line ≠ "" := by
    rintro line hread rfl
    rw [readOutput_empty] at hread
    exact hreading hread.symm
  constructor
  · rintro ⟨line, hmem, hread⟩
    exact ⟨line, (h line (hline line hread)).1 hmem, hread⟩
  · rintro ⟨line, hmem, hread⟩
    exact ⟨line, (h line (hline line hread)).2 hmem, hread⟩

/-- What is read in outputs with the same lines is the same. -/
theorem diagnostics_sameAnswer {l : Linter} (hl : l.analyzer.isLinewise = true)
    {output other : ProcessOutput} (h : output.SameLines other) (file shadow : String) :
    l.SameAnswer (l.diagnostics file shadow output.lines)
      (l.diagnostics file shadow other.lines) := by
  have hdiagnostics : ∀ d, d ∈ (l.readings file shadow output.lines).filterMap Reading.diagnostic? ↔
      d ∈ (l.readings file shadow other.lines).filterMap Reading.diagnostic? := by
    intro d
    rw [Reading.mem_diagnostics, Reading.mem_diagnostics, mem_readings_congr hl h (by simp)]
  have hfaults : ((l.readings file shadow output.lines).findSome? Reading.fault?).isSome =
      ((l.readings file shadow other.lines).findSome? Reading.fault?).isSome := by
    rw [Bool.eq_iff_iff, Reading.isSome_findSome?_fault?, Reading.isSome_findSome?_fault?]
    exact exists_congr fun fault => mem_readings_congr hl h (by simp)
  unfold diagnostics
  dsimp only
  rw [Analyzer.stitch_linewise hl, Analyzer.stitch_linewise hl]
  cases hstrict : l.settings.ignoreParseErrors with
  | true => exact hdiagnostics
  | false =>
    -- Either output has a line that is not understood, or neither has.
    cases houtput : (l.readings file shadow output.lines).findSome? Reading.fault? with
    | none =>
      rw [houtput] at hfaults
      have hother : (l.readings file shadow other.lines).findSome? Reading.fault? = none :=
        Option.isSome_eq_false_iff.1 hfaults.symm |> Option.isNone_iff_eq_none.1
      rw [hother]
      exact hdiagnostics
    | some fault =>
      rw [houtput] at hfaults
      obtain ⟨fault', hother⟩ := Option.isSome_iff_exists.1 hfaults.symm
      rw [hother]
      exact .inr ⟨hstrict, fault, fault', rfl, rfl⟩

namespace SameAnswer

variable {l : Linter} {answer other : Except Failure (List Diagnostic)}

/-- Every answer is the same as itself. -/
theorem refl (l : Linter) (answer : Except Failure (List Diagnostic)) :
    l.SameAnswer answer answer := by
  cases answer with
  | error failure => exact .inl rfl
  | ok diagnostics => exact fun d => Iff.rfl

/-- Answers that are the same both succeed or both fail. -/
theorem isOk_eq (h : l.SameAnswer answer other) : answer.isOk = other.isOk := by
  cases answer with
  | error failure =>
    cases other with
    | error failure' => rfl
    | ok others => cases h
  | ok diagnostics =>
    cases other with
    | error failure' => cases h
    | ok others => rfl

/-- Answers that are the same hold the same diagnostics. -/
theorem mem_iff (h : l.SameAnswer answer other) (d : Diagnostic) :
    (∃ diagnostics, answer = .ok diagnostics ∧ d ∈ diagnostics) ↔
      ∃ diagnostics, other = .ok diagnostics ∧ d ∈ diagnostics := by
  cases answer with
  | error failure =>
    cases other with
    | error failure' => simp
    | ok others => cases h
  | ok diagnostics =>
    cases other with
    | error failure' => cases h
    | ok others => simpa using h d

end SameAnswer

/-- Two runners give a linter the same output on a request; the lines may be in another order if the
linter reads every line on its own. -/
def SameOutput (l : Linter) (r : PassRequest) (runner other : Runner) : Prop :=
  ∀ call, l.call? r.file r.shadow r.root = some call → runner call = other call ∨
    l.analyzer.isLinewise = true ∧ ∃ output output', runner call = .ok output ∧
      other call = .ok output' ∧ output.SameLines output'

/-- With the same output a linter answers the same. -/
theorem SameOutput.lint {l : Linter} {r : PassRequest} {runner other : Runner}
    (h : l.SameOutput r runner other) :
    l.SameAnswer (l.lint runner r.file r.shadow r.root) (l.lint other r.file r.shadow r.root) := by
  unfold Linter.lint
  cases hcall : l.call? r.file r.shadow r.root with
  | none => exact SameAnswer.refl l _
  | some call =>
    dsimp only
    rcases h call hcall with heq | ⟨hl, output, output', houtput, hother, hlines⟩
    · rw [heq]
      exact SameAnswer.refl l _
    · rw [houtput, hother]
      exact diagnostics_sameAnswer hl hlines r.file r.shadow

end Linter

namespace Pass

/-- The linters that fail on a request. -/
def failing (linters : List Linter) (r : PassRequest) (runner : Runner) : List Linter :=
  linters.filter fun l => !(l.lint runner r.file r.shadow r.root).isOk

/-- A pass depends on its linters only by what diagnostics they give. -/
theorem files_congr {linters others : List Linter} {r : PassRequest} {runner other : Runner}
    (h : ∀ d, (∃ l ∈ linters, ∃ answer, l.lint runner r.file r.shadow r.root = .ok answer ∧
        d ∈ answer) ↔
      ∃ l ∈ others, ∃ answer, l.lint other r.file r.shadow r.root = .ok answer ∧ d ∈ answer) :
    (run linters r runner).files = (run others r other).files := by
  refine regroup_collect_congr fun ⟨id, x⟩ => ?_
  rw [PassRequest.mem_select, PassRequest.mem_select]
  simp only [mem_diagnostics, h]

/-- A pass finds the same in every order. Neither the order of its linters matters nor, for a linter
that reads every line on its own, in which order its process prints lines, how often, and to which
stream: the findings are the same, and so are the linters that fail. A failure is the same one too,
unless the settings do not pass over lines that are not understood; then the line that it is about
may be another. -/
theorem reordering_finds_the_same {linters others : List Linter} (hlinters : others.Perm linters)
    (r : PassRequest) {runner other : Runner}
    (houtput : ∀ l ∈ linters, l.SameOutput r runner other) :
    (run others r other).files = (run linters r runner).files ∧
    (failing others r other).Perm (failing linters r runner) ∧
    ∀ l ∈ linters, ∀ failure failure', l.lint runner r.file r.shadow r.root = .error failure →
      l.lint other r.file r.shadow r.root = .error failure' → failure = failure' ∨
        l.settings.ignoreParseErrors = false ∧ ∃ fault fault' : LineFault,
          failure = .parse fault.message ∧ failure' = .parse fault'.message := by
  refine ⟨files_congr fun d => ?_, ?_, fun l hl failure failure' hfailure hfailure' => ?_⟩
  · constructor
    · rintro ⟨l, hl, hd⟩
      have hl := hlinters.mem_iff.1 hl
      exact ⟨l, hl, ((houtput l hl).lint.mem_iff d).2 hd⟩
    · rintro ⟨l, hl, hd⟩
      exact ⟨l, hlinters.mem_iff.2 hl, ((houtput l hl).lint.mem_iff d).1 hd⟩
  · have hsame : failing linters r other = failing linters r runner := by
      refine List.filter_congr fun l hl => ?_
      rw [(houtput l hl).lint.isOk_eq]
    rw [← hsame]
    exact hlinters.filter _
  · have hanswer := (houtput l hl).lint
    rw [hfailure, hfailure'] at hanswer
    exact hanswer

namespace Shuffled

/-- A request for a document with two linters that read every line on its own. -/
def request : PassRequest where
  file := "/ws/a.c"
  root := "/ws"
  shadow := ""
  text := "int a;"
  trigger := .onSave
  excluded := []
  debug := false

/-- The linter of an analyzer with the default settings, which pass over nothing. -/
def linter (a : Analyzer) : Linter := .make a .initial ∅ "/ws"

/-- Lizard reports on two files, and FlawFinder prints two lines that are not understood. -/
def straight : Runner := fun call =>
  if call.program = "lizard" then
    .ok ⟨some 1, "a.c:3: warning: w\nb.h:1: warning: w\n", ""⟩
  else .ok ⟨some 0, "what\nnow\n", ""⟩

/-- The same lines in another order, some of them twice and in the other stream. -/
def shuffled : Runner := fun call =>
  if call.program = "lizard" then
    .ok ⟨some 1, "b.h:1: warning: w", "a.c:3: warning: w\n\nb.h:1: warning: w"⟩
  else .ok ⟨some 0, "", "now\nwhat"⟩

end Shuffled

open Shuffled in
/-- Shuffled lines and linters change no finding and no failing linter, but they do change which
line is complained about. -/
theorem shuffled_pass_finds_the_same :
    (run [linter .flawFinder, linter .lizard] request shuffled).files =
      (run [linter .lizard, linter .flawFinder] request straight).files ∧
    (run [linter .lizard, linter .flawFinder] request straight).files.keys =
      ["/ws/a.c", "/ws/b.h"] ∧
    (failing [linter .flawFinder, linter .lizard] request shuffled).Perm
      (failing [linter .lizard, linter .flawFinder] request straight) ∧
    (failing [linter .lizard, linter .flawFinder] request straight).map Linter.name =
      ["FlawFinder"] ∧
    (run [linter .flawFinder, linter .lizard] request shuffled).errors ≠
      (run [linter .lizard, linter .flawFinder] request straight).errors := by
  have houtput : ∀ l ∈ [linter .lizard, linter .flawFinder],
      l.SameOutput request straight shuffled := by
    have hlines : ∀ {output other : ProcessOutput},
        (∀ line ∈ output.lines, line ≠ "" → line ∈ other.lines) →
        (∀ line ∈ other.lines, line ≠ "" → line ∈ output.lines) → output.SameLines other :=
      fun h h' line hne => ⟨fun hmem => h line hmem hne, fun hmem => h' line hmem hne⟩
    intro l hl call hcall
    rcases List.mem_cons.1 hl with rfl | hl
    · obtain rfl := Option.some.inj hcall
      exact .inr ⟨rfl, _, _, rfl, rfl, hlines (by decide +kernel) (by decide +kernel)⟩
    · obtain rfl := List.mem_singleton.1 hl
      obtain rfl := Option.some.inj hcall
      exact .inr ⟨rfl, _, _, rfl, rfl, hlines (by decide +kernel) (by decide +kernel)⟩
  obtain ⟨hfiles, hfailing, -⟩ := reordering_finds_the_same
    (List.Perm.swap (linter .lizard) (linter .flawFinder) []) request houtput
  exact ⟨hfiles, by decide +kernel, hfailing, by decide +kernel, by decide +kernel⟩

end Pass

end LintRelay
