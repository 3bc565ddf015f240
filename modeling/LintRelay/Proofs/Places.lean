import LintRelay.Proofs.Stepwise

/-!
# Messages that leave their place out

PC-lint Plus leaves out the place of a message that belongs to the place of an earlier one. Here it
is shown where such a message ends up.

Which place a line names can be told from the line alone (`named?`): neither the severity of its
report counts nor the rule. A report stands at the place that its line names, or else at the place
to remember (`read_of_heard?`), and the place that a line names is the one to remember next
(`read_snd`). Along several lines, the place to remember is therefore the one that was named last
(`placeFrom_eq`), so that a message is placed by the nearest line before it that names a place
(`messages_placed`). From the diagnostics the message that counts the messages is left out, and
nothing else is changed (`stitch_eq_filter`).
-/

namespace LintRelay

namespace PclintPlus

open Text

/-! ## One line -/

/-- The report in a line, if the line is not passed over and has one of the two forms. -/
def heard? (line : String) : Option Report :=
  if isNoise line.toList then none else report? line.toList

/-- The place that a report names, if it has a file name. -/
def place? (r : Report) : Option Location :=
  if r.file = [] then none else some ⟨String.ofList r.file, zeroBased r.line⟩

/-- The place that a line names. -/
def named? (line : String) : Option Location := (heard? line).bind place?

/-- What a report says at a place. -/
def readAt (levels : SeverityTable) (r : Report) (place : Location) : Reading :=
  match levels.get? (lowerWord r.word) with
  | none => .fault (.severity (lowerWord r.word))
  | some severity =>
    .diagnostic
      { fileName := place.fileName
        line := place.line
        column := 0
        severity
        code := ruleCode (String.ofList r.code)
        message := String.ofList r.message
        source := Analyzer.pclintPlus.name }

variable {levels : SeverityTable} {line : String}

/-- A line without a report names no place. -/
theorem read_of_heard?_eq_none (h : heard? line = none) (last : Option Location) :
    read levels last line =
      (if isNoise line.toList then .skip else .fault (.form line), last) := by
  unfold heard? at h
  unfold read
  dsimp only
  split
  · rfl
  · next hnoise =>
    rw [if_neg hnoise] at h
    rw [h]

/-- A report stands at the place that it names, or else at the place to remember. -/
theorem read_of_heard? {r : Report} (h : heard? line = some r) (last : Option Location) :
    read levels last line =
      match (named? line).or last with
      | none => (.fault (.form line), none)
      | some place => (readAt levels r place, some place) := by
  have hnamed : named? line = place? r := by rw [named?, h, Option.bind_some]
  unfold heard? at h
  split at h
  · cases h
  · next hnoise =>
    rw [hnamed]
    unfold read place?
    dsimp only
    rw [if_neg hnoise, h]
    dsimp only
    by_cases hfile : r.file = []
    · rw [if_pos hfile, if_pos hfile, Option.none_or]
      cases last <;> rfl
    · rw [if_neg hfile, if_neg hfile, Option.some_or]
      rfl

/-- After a line the place to remember is the one that it names, or else the one before. -/
theorem read_snd (last : Option Location) : (read levels last line).2 = (named? line).or last := by
  cases h : heard? line with
  | none =>
    rw [read_of_heard?_eq_none h, named?, h, Option.bind_none, Option.none_or]
  | some r =>
    rw [read_of_heard? h]
    cases (named? line).or last <;> rfl

/-! ## Several lines -/

/-- The place that was named last is remembered. -/
theorem placeFrom_eq {l : Linter} (hl : l.analyzer = .pclintPlus) (file shadow : String)
    (last : Option Location) (lines : List String) :
    l.placeFrom file shadow last lines = (lines.filterMap named?).getLast?.or last := by
  have hstep : ∀ last line, (l.readLine file shadow last line).2 = (named? line).or last := by
    intro last line
    unfold Linter.readLine
    rw [hl]
    exact read_snd last
  unfold Linter.placeFrom
  induction lines generalizing last with
  | nil => rfl
  | cons line rest ih =>
    rw [List.foldl_cons, hstep, ih]
    -- A place that this line names counts only if no later line names one.
    cases hnamed : named? line with
    | none => rw [List.filterMap_cons_none hnamed, Option.none_or]
    | some place =>
      rw [List.filterMap_cons_some hnamed, List.getLast?_cons]
      cases (rest.filterMap named?).getLast? <;> rfl

section Lines

variable {l : Linter} (hl : l.analyzer = .pclintPlus) {file shadow : String}

include hl

/-- The place to remember is the nearest one that was named. -/
theorem placeAfter_of_named {earlier between : List String} {naming : String} {place : Location}
    (hnaming : named? naming = some place) (hbetween : ∀ other ∈ between, named? other = none) :
    l.placeAfter file shadow (earlier ++ naming :: between) = some place := by
  have hnone : between.filterMap named? = [] := List.filterMap_eq_nil_iff.2 hbetween
  unfold Linter.placeAfter
  rw [placeFrom_eq hl, List.filterMap_append, List.filterMap_cons_some hnaming, hnone,
    List.getLast?_concat, Option.some_or]

/-- There is no place to remember if none was named. -/
theorem placeAfter_of_none {lines : List String} (h : ∀ other ∈ lines, named? other = none) :
    l.placeAfter file shadow lines = none := by
  unfold Linter.placeAfter
  rw [placeFrom_eq hl, List.filterMap_eq_nil_iff.2 h]
  rfl

/-- What a line says after others. -/
theorem readAfter_eq (before : List String) (line : String) :
    l.readAfter file shadow before line =
      (read l.settings.pclintplus.severityLevels (l.placeAfter file shadow before) line).1 := by
  unfold Linter.readAfter Linter.readLine
  rw [hl]

end Lines

/-! ## Diagnostics -/

/-- Of the diagnostics, those that count the messages are left out, and the others stay as they
are. -/
theorem stitch_eq_filter (held : Option Diagnostic) (diagnostics : List Diagnostic) :
    Analyzer.pclintPlus.stitch held diagnostics =
      held.toList ++ diagnostics.filter fun d => d.code ≠ some completionCode := by
  -- What is held back differs from step to step, but it is always passed on unchanged.
  induction diagnostics generalizing held with
  | nil => rw [Analyzer.stitch, List.filter_nil, List.append_nil]
  | cons d rest ih =>
    rw [Analyzer.stitch]
    unfold Analyzer.amend
    by_cases hcode : d.code = some completionCode
    · rw [List.filter_cons_of_neg (by simpa using hcode)]
      dsimp only
      rw [if_pos hcode, ih]
      rfl
    · rw [List.filter_cons_of_pos (by simpa using hcode)]
      dsimp only
      rw [if_neg hcode, ih]
      rfl

/-- Every message of PC-lint Plus finds its place. In lines that are read in order, a report with a
file name stands at its own place, whatever was read before. A report without one stands at the
place that the nearest line before it names that names any, whichever form, severity or rule this
has, and is not understood if there is none. Lines without a report are passed over or not
understood. If faults are passed over, the diagnostics of an output are those among its readings,
in order and unchanged, without the ones that count the messages. -/
theorem messages_placed {l : Linter} (hl : l.analyzer = .pclintPlus) (file shadow : String) :
    (∀ (before : List String) (line : String) (after : List String), ∃ reading,
      (l.readFrom file shadow none (before ++ line :: after))[before.length]? = some reading ∧
      (∀ r place, heard? line = some r → place? r = some place →
        reading = readAt l.settings.pclintplus.severityLevels r place) ∧
      (∀ r, heard? line = some r → place? r = none →
        (∀ earlier naming between place, before = earlier ++ naming :: between →
          named? naming = some place → (∀ other ∈ between, named? other = none) →
          reading = readAt l.settings.pclintplus.severityLevels r place) ∧
        ((∀ other ∈ before, named? other = none) → reading = .fault (.form line))) ∧
      (heard? line = none →
        reading = if isNoise line.toList then .skip else .fault (.form line))) ∧
    (l.settings.ignoreParseErrors = true → ∀ lines, l.diagnostics file shadow lines =
      .ok (((l.readFrom file shadow none (lines.map Linter.stripQuotes)).filterMap
        Reading.diagnostic?).filter fun d => d.code ≠ some "900")) := by
  refine ⟨fun before line after => ⟨l.readAfter file shadow before line, ?_, ?_, ?_, ?_⟩, ?_⟩
  · have hlength : (l.readFrom file shadow none before).length = before.length :=
      Linter.length_readFrom none before
    rw [Linter.readFrom_split, ← hlength]
    simp
  · intro r place hr hplace
    have hnamed : named? line = some place := by rw [named?, hr, Option.bind_some, hplace]
    rw [readAfter_eq hl, read_of_heard? hr, hnamed, Option.some_or]
  · intro r hr hplace
    have hnamed : named? line = none := by rw [named?, hr, Option.bind_some, hplace]
    rw [readAfter_eq hl, read_of_heard? hr, hnamed, Option.none_or]
    constructor
    · rintro earlier naming between place rfl hnaming hbetween
      rw [placeAfter_of_named hl hnaming hbetween]
    · intro hbefore
      rw [placeAfter_of_none hl hbefore]
  · intro hnone
    rw [readAfter_eq hl, read_of_heard?_eq_none hnone]
  · intro hlenient lines
    refine Linter.diagnostics_eq_ok_iff.2 ⟨.inl hlenient, ?_⟩
    rw [hl, stitch_eq_filter]
    rfl

namespace Scattered

/-- Settings that pass over faults and know one severity word less. -/
def settings : Settings :=
  { Settings.initial with
    ignoreParseErrors := true
    pclintplus :=
      { Settings.initial.pclintplus with
        severityLevels := Settings.initial.pclintplus.severityLevels.erase "supplemental" } }

/-- PC-lint Plus with these settings. -/
def linter : Linter := .make .pclintPlus settings ∅ "/ws"

/-- A message before any place is named, a place with the count of messages, a message, and a place
in the other form with a word that is not known. -/
def before : List String :=
  ["  0 0  note 974: early", "a.c  3 0  Note 900: count", "  0 0  warning 534: w",
    "b.c:7:1: supplemental 891: s"]

/-- A line that is passed over and one that is no report. -/
def between : List String := ["PC-lint Plus 1.3.5", "b.c: no such file"]

/-- A message, which belongs to the second place. -/
def message : String := "  0 0  Info 713: i"

/-- All lines, with a message at a third place at the end. -/
def lines : List String := before ++ between ++ [message, "c.c  9 0  error 10: x"]

end Scattered

open Scattered in
/-- A message is placed by a line that is itself not understood, across lines that do not count. The
same message before all places is not understood, and one with a place keeps it. -/
theorem scattered_messages_placed :
    (linter.readFrom "" "" none lines)[6]? =
      some (.diagnostic ⟨"b.c", 6, 0, .information, some "713", "i", "PclintPlus"⟩) ∧
    (linter.readFrom "" "" none lines)[0]? = some (.fault (.form "  0 0  note 974: early")) ∧
    (linter.readFrom "" "" none lines)[7]? =
      some (.diagnostic ⟨"c.c", 8, 0, .error, some "10", "x", "PclintPlus"⟩) ∧
    (linter.diagnostics "" "" lines).toOption =
      some [⟨"a.c", 2, 0, .warning, some "534", "w", "PclintPlus"⟩,
        ⟨"b.c", 6, 0, .information, some "713", "i", "PclintPlus"⟩,
        ⟨"c.c", 8, 0, .error, some "10", "x", "PclintPlus"⟩] := by
  obtain ⟨hread, hlenient⟩ := messages_placed (l := linter) rfl "" ""
  refine ⟨?_, ?_, ?_, ?_⟩
  · obtain ⟨reading, hreading, -, hbare, -⟩ :=
      hread (before ++ between) message ["c.c  9 0  error 10: x"]
    have hplaced := (hbare ⟨[], ['0'], ['0'], "Info", ['7', '1', '3'], ['i']⟩ (by decide +kernel)
      rfl).1 (before.take 3) "b.c:7:1: supplemental 891: s" between ⟨"b.c", 6⟩ rfl
        (by decide +kernel) (by decide +kernel)
    rw [hplaced] at hreading
    exact hreading.trans (by decide +kernel)
  · obtain ⟨reading, hreading, -, hbare, -⟩ := hread [] "  0 0  note 974: early" lines.tail
    have hlost := (hbare ⟨[], ['0'], ['0'], "note", ['9', '7', '4'], "early".toList⟩
      (by decide +kernel) rfl).2 (by simp)
    rw [hlost] at hreading
    exact hreading
  · obtain ⟨reading, hreading, hown, -, -⟩ := hread (lines.take 7) "c.c  9 0  error 10: x" []
    have hplaced := hown ⟨['c', '.', 'c'], ['9'], ['0'], "error", ['1', '0'], ['x']⟩ ⟨"c.c", 8⟩
      (by decide +kernel) (by decide +kernel)
    rw [hplaced] at hreading
    exact hreading.trans (by decide +kernel)
  · rw [hlenient rfl]
    decide +kernel

end PclintPlus

end LintRelay
