import LintRelay.Proofs.Output
import Mathlib.Data.List.Forall2

/-!
# Reports and their continuations

Flexelint prints some reports in several lines. The lines after the first have a code of their own
and belong to the report before them (`IsContinuation`). Here it is shown what becomes of them.

The diagnostics of an output are chains, each of one report and its continuations, after
continuations of nothing (`exists_chains`). One step of stitching either passes a report on and
holds the next one back (`amend_report`), or works a continuation into the report that is held back
and passes it on (`amend_continuation`). Along all chains this gives one diagnostic for each
(`stitch_chains`), which is the report, at the line that the first of its continuations cites. So no
report is lost and none is made up (`reports_kept`). Since the first continuation already releases
the report, further ones change nothing, and the line is that of the last citation only under a
condition (`first_continuation_decides`).
-/

namespace LintRelay

namespace Flexelint

/-! ## Chains -/

/-- A diagnostic that belongs to the one before it. -/
def IsContinuation (d : Diagnostic) : Prop := d.code = some "830" ∨ d.code = some "831"

instance (d : Diagnostic) : Decidable (IsContinuation d) := inferInstanceAs (Decidable (_ ∨ _))

/-- The codes of continuations are those that cite. -/
theorem citation?_eq_none_iff {d : Diagnostic} : citation? d.code = none ↔ ¬ IsContinuation d := by
  unfold citation? IsContinuation
  split
  · next h => simp [h]
  · next h =>
    split
    · next h' => simp [h']
    · next h' => simp [h, h']

/-- The line that a continuation cites; none if it only announces a citation. -/
def cited? (c : Diagnostic) : Option Nat :=
  if citation? c.code = some c.message then none else some c.line

/-- The line that the first of some continuations cites. -/
def firstCited? (continuations : List Diagnostic) : Option Nat :=
  continuations.head?.bind cited?

/-- The line that is cited last by some continuations. -/
def lastCited? (continuations : List Diagnostic) : Option Nat :=
  (continuations.filterMap cited?).getLast?

/-- If no line is cited last, then none is cited first. -/
theorem firstCited?_eq_none {continuations : List Diagnostic}
    (h : lastCited? continuations = none) : firstCited? continuations = none := by
  have hnone : ∀ c ∈ continuations, cited? c = none :=
    List.filterMap_eq_nil_iff.1 (List.getLast?_eq_none_iff.1 h)
  cases continuations with
  | nil => rfl
  | cons c rest => exact hnone c List.mem_cons_self

/-- When the line that is cited first is as good as the one that is cited last, for a report at the
given line. -/
theorem getD_firstCited?_eq_iff (continuations : List Diagnostic) (line : Nat) :
    (firstCited? continuations).getD line = (lastCited? continuations).getD line ↔
      firstCited? continuations = lastCited? continuations ∨
        firstCited? continuations = none ∧ lastCited? continuations = some line := by
  have hnone := @firstCited?_eq_none continuations
  cases hlast : lastCited? continuations with
  | none => simp [hnone hlast]
  | some last =>
    cases hfirst : firstCited? continuations with
    | none => simp [eq_comm]
    | some first => simp

/-- A report and the continuations that follow it. -/
structure Chain where
  /-- The report. -/
  report : Diagnostic
  /-- Its continuations, in the order in which they were printed. -/
  continuations : List Diagnostic
  /-- The report stands on its own. -/
  stands : ¬ IsContinuation report
  /-- The continuations do not. -/
  follow : ∀ c ∈ continuations, IsContinuation c

namespace Chain

/-- The chain as it was printed. -/
def diagnostics (x : Chain) : List Diagnostic := x.report :: x.continuations

/-- What becomes of the chain: the report, at the line that its first continuation cites. -/
def outcome (x : Chain) : Diagnostic :=
  { x.report with line := (firstCited? x.continuations).getD x.report.line }

/-- A diagnostic that stands for the chain: it is the report, possibly at the line of one of its
continuations. -/
structure Yields (x : Chain) (d : Diagnostic) : Prop where
  /-- All but the line is that of the report. -/
  same : d = { x.report with line := d.line }
  /-- The line is that of the report, or that of a continuation. -/
  line : d.line = x.report.line ∨ ∃ c ∈ x.continuations, d.line = c.line

/-- The outcome stands for the chain. -/
theorem yields_outcome (x : Chain) : x.Yields x.outcome := by
  refine ⟨rfl, ?_⟩
  unfold outcome firstCited?
  cases hhead : x.continuations.head? with
  | none => exact .inl rfl
  | some c =>
    rw [Option.bind_some]
    unfold cited?
    split
    · exact .inl rfl
    · exact .inr ⟨c, List.mem_of_head? hhead, rfl⟩

/-- What stands for a chain is no continuation. -/
theorem Yields.stands {x : Chain} {d : Diagnostic} (h : x.Yields d) : ¬ IsContinuation d := by
  rw [h.same]
  exact x.stands

end Chain

/-- Diagnostics are chains, after continuations of nothing. -/
theorem exists_chains (diagnostics : List Diagnostic) :
    ∃ (strays : List Diagnostic) (chains : List Chain), (∀ c ∈ strays, IsContinuation c) ∧
      diagnostics = strays ++ chains.flatMap Chain.diagnostics := by
  induction diagnostics with
  | nil => exact ⟨[], [], by simp, rfl⟩
  | cons d rest ih =>
    obtain ⟨strays, chains, hstrays, rfl⟩ := ih
    by_cases hd : IsContinuation d
    · exact ⟨d :: strays, chains, List.forall_mem_cons.2 ⟨hd, hstrays⟩, rfl⟩
    · -- A report takes up the continuations that had none before them.
      exact ⟨[], ⟨d, strays, hd, hstrays⟩ :: chains, by simp, rfl⟩

/-- The reports of chains are the diagnostics that are no continuations. -/
theorem filter_chains {strays : List Diagnostic} (hstrays : ∀ c ∈ strays, IsContinuation c)
    (chains : List Chain) :
    (strays ++ chains.flatMap Chain.diagnostics).filter (fun d => ¬ IsContinuation d) =
      chains.map Chain.report := by
  have hnone : ∀ {cs : List Diagnostic}, (∀ c ∈ cs, IsContinuation c) →
      cs.filter (fun d => ¬ IsContinuation d) = [] := fun hcs =>
    List.filter_eq_nil_iff.2 fun c hc => by simp [hcs c hc]
  rw [List.filter_append, hnone hstrays, List.nil_append]
  induction chains with
  | nil => rfl
  | cons x rest ih =>
    have hx : x.diagnostics.filter (fun d => ¬ IsContinuation d) = [x.report] := by
      unfold Chain.diagnostics
      rw [List.filter_cons_of_pos (by simp [x.stands]), hnone x.follow]
    rw [List.flatMap_cons, List.filter_append, hx, ih]
    rfl

/-! ## Stitching -/

section Steps

variable {held : Option Diagnostic} {c d : Diagnostic}

/-- A report passes on the one that is held back, and is held back itself. -/
theorem amend_report (hd : ¬ IsContinuation d) :
    Analyzer.flexelint.amend held d = (held, some d) := by
  unfold Analyzer.amend
  rw [citation?_eq_none_iff.2 hd]

/-- A continuation passes on the report that is held back, at the line that it cites. -/
theorem amend_continuation (hc : IsContinuation c) (hcolumn : ∀ d ∈ held, d.column = c.column) :
    Analyzer.flexelint.amend held c =
      (held.map fun d => { d with line := (cited? c).getD d.line }, none) := by
  have hcitation : citation? c.code ≠ none := fun hnone => citation?_eq_none_iff.1 hnone hc
  obtain ⟨citation, hcitation⟩ := Option.ne_none_iff_exists'.1 hcitation
  unfold Analyzer.amend cited?
  rw [hcitation]
  dsimp only
  by_cases hbare : c.message = citation
  · rw [if_pos hbare, if_pos (congrArg some hbare.symm)]
    cases held <;> rfl
  · rw [if_neg hbare, if_neg fun heq => hbare (Option.some.inj heq).symm]
    cases held with
    | none => rfl
    | some d =>
      -- Positions are moved as a whole, and all columns are alike.
      rw [Option.map_some, Option.map_some, ← hcolumn d rfl]
      rfl

end Steps

/-- With nothing held back, continuations are dropped. -/
theorem stitch_strays {strays : List Diagnostic} (hstrays : ∀ c ∈ strays, IsContinuation c)
    (rest : List Diagnostic) :
    Analyzer.flexelint.stitch none (strays ++ rest) = Analyzer.flexelint.stitch none rest := by
  induction strays with
  | nil => rfl
  | cons c others ih =>
    obtain ⟨hc, hothers⟩ := List.forall_mem_cons.1 hstrays
    rw [List.cons_append, Analyzer.stitch, amend_continuation hc (by simp)]
    exact ih hothers

/-- Stitching gives one diagnostic for each chain. -/
theorem stitch_chains (held : Option Diagnostic) (chains : List Chain)
    (hcolumn : ∀ d ∈ chains.flatMap Chain.diagnostics, d.column = 0) :
    Analyzer.flexelint.stitch held (chains.flatMap Chain.diagnostics) =
      held.toList ++ chains.map Chain.outcome := by
  -- What is held back differs from chain to chain: nothing after a continuation, else a report.
  induction chains generalizing held with
  | nil => simp [Analyzer.stitch]
  | cons x rest ih =>
    rw [List.flatMap_cons, List.forall_mem_append] at hcolumn
    obtain ⟨hx, hrest⟩ := hcolumn
    have hreport : Analyzer.flexelint.stitch held ((x :: rest).flatMap Chain.diagnostics) =
        held.toList ++ Analyzer.flexelint.stitch (some x.report)
          (x.continuations ++ rest.flatMap Chain.diagnostics) := by
      rw [List.flatMap_cons, Chain.diagnostics, List.cons_append, Analyzer.stitch,
        amend_report x.stands]
    rw [hreport, List.map_cons]
    congr 1
    obtain ⟨report, continuations, stands, follow⟩ := x
    cases continuations with
    | nil =>
      -- The next report, or the end, passes it on.
      rw [List.nil_append, ih (some report) hrest]
      rfl
    | cons c others =>
      -- The first continuation passes it on, and the others find nothing.
      obtain ⟨hc, hothers⟩ := List.forall_mem_cons.1 follow
      have hsame : report.column = c.column := by
        rw [hx report (by simp [Chain.diagnostics]), hx c (by simp [Chain.diagnostics])]
      rw [List.cons_append, Analyzer.stitch, amend_continuation hc (by simpa using hsame)]
      dsimp only
      rw [stitch_strays hothers, ih none hrest]
      rfl

/-! ## Outputs -/

/-- Columns are not used. -/
theorem column_of_read {levels : SeverityTable} {line : String} {d : Diagnostic}
    (h : read levels line = .diagnostic d) : d.column = 0 := by
  unfold read at h
  dsimp only at h
  split at h
  · cases h
  · split at h
    · cases h
    · unfold Report.read at h
      split at h
      · cases h
      · rw [← Reading.diagnostic.inj h]

section Outputs

variable {l : Linter} (hl : l.analyzer = .flexelint) {file shadow : String}

include hl

/-- Flexelint is not the analyzer whose lines depend on those before them. -/
theorem ne_pclintPlus : l.analyzer ≠ .pclintPlus := by
  rw [hl]
  decide

/-- No diagnostic of Flexelint has a column. -/
theorem column_of_mem_parsed {lines : List String} {d : Diagnostic}
    (hd : d ∈ l.parsed file shadow lines) : d.column = 0 := by
  rw [Linter.parsed_eq (ne_pclintPlus hl), Reading.mem_diagnostics] at hd
  obtain ⟨line, -, hread⟩ := List.mem_map.1 hd
  unfold Linter.readOutput Linter.readLine at hread
  rw [hl] at hread
  exact column_of_read hread

/-- The diagnostics of an output are given by its chains. -/
theorem diagnostics_of_chains {lines : List String} (haccepts : l.Accepts file shadow lines)
    {strays : List Diagnostic} {chains : List Chain} (hstrays : ∀ c ∈ strays, IsContinuation c)
    (hparsed : l.parsed file shadow lines = strays ++ chains.flatMap Chain.diagnostics) :
    l.diagnostics file shadow lines = .ok (chains.map Chain.outcome) := by
  refine Linter.diagnostics_eq_ok_iff.2 ⟨haccepts, ?_⟩
  have hcolumn : ∀ d ∈ chains.flatMap Chain.diagnostics, d.column = 0 := fun d hd =>
    column_of_mem_parsed hl (hparsed ▸ List.mem_append_right strays hd)
  rw [hl, hparsed, stitch_strays hstrays, stitch_chains none chains hcolumn]
  rfl

end Outputs

/-- Output of Flexelint that is understood, as far as the settings demand it, and only such output,
gives diagnostics. No report is lost and none is made up: there is one diagnostic for each report
that is no continuation, in the same order, equal to the report in all but the line. The line is
that of the report, or that of a continuation between the report and the next one. No continuation
is ever among the diagnostics. -/
theorem reports_kept {l : Linter} (hl : l.analyzer = .flexelint) (file shadow : String)
    (lines : List String) :
    ((∃ found, l.diagnostics file shadow lines = .ok found) ↔ l.Accepts file shadow lines) ∧
    ∀ found, l.diagnostics file shadow lines = .ok found →
      ∃ (strays : List Diagnostic) (chains : List Chain), (∀ c ∈ strays, IsContinuation c) ∧
        l.parsed file shadow lines = strays ++ chains.flatMap Chain.diagnostics ∧
        (l.parsed file shadow lines).filter (fun d => ¬ IsContinuation d) =
          chains.map Chain.report ∧
        List.Forall₂ Chain.Yields chains found ∧
        ∀ d ∈ found, ¬ IsContinuation d := by
  obtain ⟨strays, chains, hstrays, hparsed⟩ := exists_chains (l.parsed file shadow lines)
  have hgives : l.Accepts file shadow lines →
      l.diagnostics file shadow lines = .ok (chains.map Chain.outcome) := fun haccepts =>
    diagnostics_of_chains hl haccepts hstrays hparsed
  refine ⟨⟨?_, fun haccepts => ⟨_, hgives haccepts⟩⟩, fun found hfound => ?_⟩
  · rintro ⟨found, hfound⟩
    exact (Linter.diagnostics_eq_ok_iff.1 hfound).1
  · obtain rfl : chains.map Chain.outcome = found :=
      Except.ok.inj ((hgives (Linter.diagnostics_eq_ok_iff.1 hfound).1).symm.trans hfound)
    refine ⟨strays, chains, hstrays, hparsed, ?_, ?_, ?_⟩
    · rw [hparsed, filter_chains hstrays]
    · rw [List.forall₂_map_right_iff, List.forall₂_same]
      exact fun x _ => x.yields_outcome
    · intro d hd
      obtain ⟨x, -, rfl⟩ := List.mem_map.1 hd
      exact x.yields_outcome.stands

namespace Scattered

/-- Flexelint with the settings that it has at first, which pass over nothing. -/
def linter : Linter := .make .flexelint .initial ∅ "/ws"

/-- What follows the second report: a continuation, an empty line, and another continuation. -/
def run : List String :=
  ["a.c  42 0  Info 830: Location of symbol 'p'", "", "a.c  50 0  Info 831: Reference to 'q'"]

/-- Three reports, the first after a stray continuation, the second with two continuations. -/
def lines : List String :=
  ["a.c  3 0  Info 831: Reference to 'p'", "a.c  5 0  Note 900: n"] ++
    "a.c  10 0  Warning 613: w" :: (run ++ ["a.c  7 0  Error 10: x"])

/-- A report as it was printed. -/
def report (line : Nat) (severity : Severity) (code message : String) : Diagnostic :=
  ⟨"a.c", line - 1, 0, severity, some code, message, "Flexelint"⟩

/-- What the lines say. -/
theorem read_lines : lines.map (linter.readOutput "" "") =
    [.diagnostic (report 3 .information "831" "Reference to 'p'"),
      .diagnostic (report 5 .hint "900" "n"), .diagnostic (report 10 .warning "613" "w"),
      .diagnostic (report 42 .information "830" "Location of symbol 'p'"), .skip,
      .diagnostic (report 50 .information "831" "Reference to 'q'"),
      .diagnostic (report 7 .error "10" "x")] := by
  decide +kernel

/-- The lines are understood. -/
theorem accepts_lines : linter.Accepts "" "" lines := by
  refine .inr ?_
  rw [Linter.readings_eq_map (by decide), read_lines]
  decide

end Scattered

/-- Three reports among continuations in all places are kept, and nothing else is. -/
theorem scattered_reports_kept :
    ∃ found, Scattered.linter.diagnostics "" "" Scattered.lines = .ok found ∧
      (Scattered.linter.parsed "" "" Scattered.lines).map Diagnostic.code =
        [some "831", some "900", some "613", some "830", some "831", some "10"] ∧
      (∃ chains : List Chain, List.Forall₂ Chain.Yields chains found ∧
        chains.map (fun x => x.report.code) = [some "900", some "613", some "10"]) ∧
      ∀ d ∈ found, ¬ IsContinuation d := by
  obtain ⟨hiff, hkept⟩ := reports_kept (l := Scattered.linter) rfl "" "" Scattered.lines
  obtain ⟨found, hfound⟩ := hiff.2 Scattered.accepts_lines
  obtain ⟨strays, chains, -, -, hreports, hyields, hnone⟩ := hkept found hfound
  have hcodes : chains.map (fun x => x.report.code) =
      (chains.map Chain.report).map Diagnostic.code := by
    rw [List.map_map]
    rfl
  refine ⟨found, hfound, ?_, ⟨chains, hyields, ?_⟩, hnone⟩
  · rw [Linter.parsed_eq (by decide), Scattered.read_lines]
    rfl
  · rw [hcodes, ← hreports, Linter.parsed_eq (by decide), Scattered.read_lines]
    decide

/-- In output of Flexelint that is understood, take a report and all that is printed after it, up
to the next report. The report is found between what the lines before it and the lines from the next
report on give by themselves, at the line that the first continuation cites, or at its own if that
cites none. This is the line that is cited last if and only if the first and the last citation
agree, or the first continuation only announces a citation and the last one cites the line of the
report. -/
theorem first_continuation_decides {l : Linter} (hl : l.analyzer = .flexelint)
    {file shadow line : String} {before run after : List String} {found : List Diagnostic}
    {d : Diagnostic}
    (hfound : l.diagnostics file shadow (before ++ line :: (run ++ after)) = .ok found)
    (hline : l.parsed file shadow [line] = [d]) (hd : ¬ IsContinuation d)
    (hrun : ∀ c ∈ l.parsed file shadow run, IsContinuation c)
    (hafter : ∀ next ∈ (l.parsed file shadow after).head?, ¬ IsContinuation next) :
    ∃ earlier later e, l.diagnostics file shadow before = .ok earlier ∧
      l.diagnostics file shadow after = .ok later ∧ found = earlier ++ e :: later ∧
      e = { d with line := (firstCited? (l.parsed file shadow run)).getD d.line } ∧
      (e.line = (lastCited? (l.parsed file shadow run)).getD d.line ↔
        firstCited? (l.parsed file shadow run) = lastCited? (l.parsed file shadow run) ∨
          firstCited? (l.parsed file shadow run) = none ∧
            lastCited? (l.parsed file shadow run) = some d.line) := by
  have hanalyzer := ne_pclintPlus hl
  rw [← List.singleton_append] at hfound
  -- All parts of the output are understood.
  have haccepts := (Linter.diagnostics_eq_ok_iff.1 hfound).1
  have hparts := haccepts
  simp only [Linter.accepts_append hanalyzer] at hparts
  obtain ⟨hbefore, -, -, hlater⟩ := hparts
  -- They are chains before the report, the chain of the report, and chains after it.
  obtain ⟨strays, chains, hstrays, hchains⟩ := exists_chains (l.parsed file shadow before)
  obtain ⟨orphans, rest, horphans, hrest⟩ := exists_chains (l.parsed file shadow after)
  obtain rfl : orphans = [] := by
    cases orphans with
    | nil => rfl
    | cons c others =>
      rw [hrest] at hafter
      exact absurd (horphans c List.mem_cons_self) (hafter c rfl)
  let x : Chain := ⟨d, l.parsed file shadow run, hd, hrun⟩
  have hall : l.parsed file shadow (before ++ ([line] ++ (run ++ after))) =
      strays ++ (chains ++ x :: rest).flatMap Chain.diagnostics := by
    rw [Linter.parsed_append hanalyzer, Linter.parsed_append hanalyzer,
      Linter.parsed_append hanalyzer, hchains, hline, hrest, List.flatMap_append, List.flatMap_cons,
      List.append_assoc]
    rfl
  have hgives := diagnostics_of_chains hl haccepts hstrays hall
  rw [hfound, List.map_append, List.map_cons] at hgives
  exact ⟨chains.map Chain.outcome, rest.map Chain.outcome, x.outcome,
    diagnostics_of_chains hl hbefore hstrays hchains,
    diagnostics_of_chains hl hlater horphans hrest, Except.ok.inj hgives, rfl,
    getD_firstCited?_eq_iff _ _⟩

/-- A report with two continuations that cite different lines ends up at the line that is cited
first, and not at the one that is cited last. -/
theorem second_continuation_lost :
    ∃ earlier later e, Scattered.linter.diagnostics "" "" Scattered.lines =
        .ok (earlier ++ e :: later) ∧
      e = { Scattered.report 10 .warning "613" "w" with line := 41 } ∧
      lastCited? (Scattered.linter.parsed "" "" Scattered.run) = some 49 ∧
      e.line ≠ (lastCited? (Scattered.linter.parsed "" "" Scattered.run)).getD 9 := by
  have hanalyzer : Scattered.linter.analyzer ≠ .pclintPlus := by decide
  have hread := Scattered.read_lines
  simp only [Scattered.lines, Scattered.run, List.map_cons, List.map_nil, List.cons_append,
    List.nil_append, List.cons.injEq, and_true] at hread
  obtain ⟨-, -, hreport, hfirst, hempty, hsecond, hnext⟩ := hread
  have hline : Scattered.linter.parsed "" "" ["a.c  10 0  Warning 613: w"] =
      [Scattered.report 10 .warning "613" "w"] := by
    rw [Linter.parsed_eq hanalyzer, List.map_singleton, hreport]
    rfl
  have hrun : Scattered.linter.parsed "" "" Scattered.run =
      [Scattered.report 42 .information "830" "Location of symbol 'p'",
        Scattered.report 50 .information "831" "Reference to 'q'"] := by
    rw [Linter.parsed_eq hanalyzer, Scattered.run, List.map_cons, List.map_cons,
      List.map_singleton, hfirst, hempty, hsecond]
    rfl
  have hafter : Scattered.linter.parsed "" "" ["a.c  7 0  Error 10: x"] =
      [Scattered.report 7 .error "10" "x"] := by
    rw [Linter.parsed_eq hanalyzer, List.map_singleton, hnext]
    rfl
  have hfound := Linter.diagnostics_eq_ok_iff.2 ⟨Scattered.accepts_lines, rfl⟩
  obtain ⟨earlier, later, e, -, -, hparts, he, hlast⟩ :=
    first_continuation_decides rfl hfound hline (by decide) (by rw [hrun]; decide)
      (by rw [hafter]; decide)
  rw [hrun] at he hlast ⊢
  refine ⟨earlier, later, e, ?_, he, rfl, fun heq => ?_⟩
  · rw [← hparts]
    exact hfound
  · exact absurd (hlast.1 heq) (by decide)

end Flexelint

end LintRelay
