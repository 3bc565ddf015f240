import LintRelay.Proofs.Output

/-!
# Reading an output line by line

An output need not be there as a whole to be read. A reader that goes from line to line carries the
place that was named last along (`Linter.placeAfter`), so that what a line says is told by the lines
before it (`Linter.readAfter`), and the readings of an output are these, one after the other
(`Linter.readFrom_append`, `Linter.exists_of_readFrom`).

The answer that readings come to (`Linter.verdict`) can be given step by step too. There is one rule
for each kind of reading: `verdict_skip`, `verdict_fault`, `verdict_diagnostic`. A loop that follows
these rules and stops at the first line that is not understood, unless the settings pass over it
(`Linter.scan`), therefore gives what reading the whole output gives (`scan_eq_diagnostics`). It
follows how the answers under the two settings are related (`modes_agree`).
-/

namespace LintRelay

namespace Linter

variable {l : Linter} {file shadow : String}

/-! ## What a line says after others -/

/-- The place to remember after some lines, from a place that was named last. -/
def placeFrom (l : Linter) (file shadow : String) (last : Option Location) (lines : List String) :
    Option Location :=
  lines.foldl (fun last line => (l.readLine file shadow last line).2) last

/-- The place to remember after some lines. -/
def placeAfter (l : Linter) (file shadow : String) (lines : List String) : Option Location :=
  l.placeFrom file shadow none lines

/-- What a line says to a reader that has read some lines before. -/
def readAfter (l : Linter) (file shadow : String) (before : List String) (line : String) :
    Reading :=
  (l.readLine file shadow (l.placeAfter file shadow before) line).1

/-- Two parts of an output are read one after the other, and the place is carried along. -/
theorem readFrom_append (last : Option Location) (before after : List String) :
    l.readFrom file shadow last (before ++ after) = l.readFrom file shadow last before ++
      l.readFrom file shadow (l.placeFrom file shadow last before) after := by
  induction before generalizing last with
  | nil => rfl
  | cons line rest ih =>
    rw [List.cons_append, readFrom, readFrom]
    dsimp only
    rw [ih]
    rfl

/-- There is one reading for each line. -/
theorem length_readFrom (last : Option Location) (lines : List String) :
    (l.readFrom file shadow last lines).length = lines.length := by
  induction lines generalizing last with
  | nil => rfl
  | cons line rest ih =>
    rw [readFrom, List.length_cons, List.length_cons, ih]

/-- A reading stands for a line, and what comes before it stands for the lines before. -/
theorem exists_of_readFrom {last : Option Location} {lines : List String}
    {earlier later : List Reading} {reading : Reading}
    (h : l.readFrom file shadow last lines = earlier ++ reading :: later) :
    ∃ before line after, lines = before ++ line :: after ∧
      l.readFrom file shadow last before = earlier ∧
      (l.readLine file shadow (l.placeFrom file shadow last before) line).1 = reading := by
  induction lines generalizing last earlier with
  | nil => simp [readFrom] at h
  | cons line rest ih =>
    rw [readFrom] at h
    dsimp only at h
    -- The reading is that of the first line, or it stands among those of the rest.
    cases earlier with
    | nil =>
      obtain ⟨hreading, -⟩ := List.cons.inj h
      exact ⟨[], line, rest, rfl, rfl, hreading⟩
    | cons first others =>
      obtain ⟨hfirst, hothers⟩ := List.cons.inj h
      obtain ⟨before, line', after, rfl, hbefore, hreading⟩ := ih hothers
      refine ⟨line :: before, line', after, rfl, ?_, hreading⟩
      rw [readFrom, ← hfirst, ← hbefore]

/-- A line in an output is read as it is after the lines before it. -/
theorem readFrom_split (before : List String) (line : String) (after : List String) :
    l.readFrom file shadow none (before ++ line :: after) =
      l.readFrom file shadow none before ++ l.readAfter file shadow before line ::
        l.readFrom file shadow
          (l.readLine file shadow (l.placeAfter file shadow before) line).2 after :=
  readFrom_append none before (line :: after)

/-- Whether some lines are all understood, when they are read in order. -/
def Understands (l : Linter) (file shadow : String) (lines : List String) : Prop :=
  ∀ before line after, lines = before ++ line :: after →
    (l.readAfter file shadow before line).fault? = none

/-- Lines are understood if no reading of them is a fault. -/
theorem understands_iff {lines : List String} : l.Understands file shadow lines ↔
    ∀ reading ∈ l.readFrom file shadow none lines, reading.fault? = none := by
  constructor
  · intro h reading hreading
    obtain ⟨earlier, later, hsplit⟩ := List.append_of_mem hreading
    obtain ⟨before, line, after, hlines, -, rfl⟩ := exists_of_readFrom hsplit
    exact h before line after hlines
  · rintro h before line after rfl
    refine h _ ?_
    rw [readFrom_split]
    exact List.mem_append_right _ List.mem_cons_self

/-- The first fault is that of a line after lines that are understood. -/
theorem findSome?_fault?_iff {lines : List String} {fault : LineFault} :
    (l.readFrom file shadow none lines).findSome? Reading.fault? = some fault ↔
      ∃ before line after, lines = before ++ line :: after ∧ l.Understands file shadow before ∧
        l.readAfter file shadow before line = .fault fault := by
  rw [List.findSome?_eq_some_iff]
  have hfault : ∀ reading : Reading, reading.fault? = some fault → reading = .fault fault := by
    intro reading h
    cases reading with
    | skip => cases h
    | diagnostic d => cases h
    | fault f => rw [Option.some.inj h]
  constructor
  · rintro ⟨earlier, reading, later, hsplit, hreading, hearlier⟩
    obtain ⟨before, line, after, hlines, rfl, rfl⟩ := exists_of_readFrom hsplit
    exact ⟨before, line, after, hlines, understands_iff.2 hearlier, hfault _ hreading⟩
  · rintro ⟨before, line, after, rfl, hbefore, hline⟩
    refine ⟨_, _, _, readFrom_split before line after, ?_, understands_iff.1 hbefore⟩
    rw [hline]
    rfl

/-! ## From readings to an answer -/

/-- The answer that readings come to, after a diagnostic that is held back. -/
def verdict (l : Linter) (held : Option Diagnostic) (readings : List Reading) :
    Except Failure (List Diagnostic) :=
  match l.settings.ignoreParseErrors, readings.findSome? Reading.fault? with
  | false, some fault => .error (.parse fault.message)
  | _, _ => .ok (l.analyzer.stitch held (readings.filterMap Reading.diagnostic?))

/-- The answer to an output is the one that its readings come to. -/
theorem diagnostics_eq_verdict (lines : List String) :
    l.diagnostics file shadow lines = l.verdict none (l.readings file shadow lines) := rfl

/-- What is passed over changes no answer. -/
theorem verdict_skip (held : Option Diagnostic) (readings : List Reading) :
    l.verdict held (.skip :: readings) = l.verdict held readings := rfl

/-- What is not understood is the answer, unless it is passed over. -/
theorem verdict_fault (held : Option Diagnostic) (fault : LineFault) (readings : List Reading) :
    l.verdict held (.fault fault :: readings) =
      if l.settings.ignoreParseErrors then l.verdict held readings
      else .error (.parse fault.message) := by
  unfold verdict
  cases l.settings.ignoreParseErrors with
  | true => rfl
  | false => rfl

/-- A diagnostic releases the one that is held back, in front of what else there is. -/
theorem verdict_diagnostic (held : Option Diagnostic) (d : Diagnostic) (readings : List Reading) :
    l.verdict held (.diagnostic d :: readings) =
      (l.verdict (l.analyzer.amend held d).2 readings).map
        ((l.analyzer.amend held d).1.toList ++ ·) := by
  have hfault : (Reading.diagnostic d :: readings).findSome? Reading.fault? =
      readings.findSome? Reading.fault? := rfl
  have hstitch : l.analyzer.stitch held
      ((Reading.diagnostic d :: readings).filterMap Reading.diagnostic?) =
        (l.analyzer.amend held d).1.toList ++ l.analyzer.stitch (l.analyzer.amend held d).2
          (readings.filterMap Reading.diagnostic?) := rfl
  unfold verdict
  rw [hfault, hstitch]
  cases l.settings.ignoreParseErrors with
  | true => rfl
  | false =>
    cases readings.findSome? Reading.fault? with
    | none => rfl
    | some fault => rfl

/-! ## The loop -/

/-- Where a reader stands in the middle of an output. -/
structure Progress where
  /-- The place that was named last. -/
  place : Option Location
  /-- The diagnostic that is held back. -/
  held : Option Diagnostic
  /-- The diagnostics that were released. -/
  found : List Diagnostic

/-- A reader takes in one line. If the line is not understood, this ends the reading, or else the
line is passed over, as the settings say. -/
def advance (l : Linter) (file shadow : String) (s : Progress) (line : String) :
    Except Failure Progress :=
  let (reading, place) := l.readLine file shadow s.place (stripQuotes line)
  match reading with
  | .skip => .ok { s with place }
  | .fault fault =>
    if l.settings.ignoreParseErrors then .ok { s with place } else .error (.parse fault.message)
  | .diagnostic d =>
    let (released, held) := l.analyzer.amend s.held d
    .ok { place, held, found := s.found ++ released.toList }

/-- The diagnostics of an output that is read line by line. -/
def scan (l : Linter) (file shadow : String) (lines : List String) :
    Except Failure (List Diagnostic) :=
  (lines.foldlM (l.advance file shadow) ⟨none, none, []⟩).map fun s => s.found ++ s.held.toList

section Steps

variable {s : Progress} {line : String} {place : Option Location}

/-- A line that says nothing only leaves a place to remember. -/
theorem advance_skip (h : l.readLine file shadow s.place (stripQuotes line) = (.skip, place)) :
    l.advance file shadow s line = .ok { s with place } := by
  unfold advance
  rw [h]

/-- So does a line that is not understood, unless it ends the reading. -/
theorem advance_fault {fault : LineFault}
    (h : l.readLine file shadow s.place (stripQuotes line) = (.fault fault, place)) :
    l.advance file shadow s line =
      if l.settings.ignoreParseErrors then .ok { s with place }
      else .error (.parse fault.message) := by
  unfold advance
  rw [h]

/-- A diagnostic releases the one that is held back. -/
theorem advance_diagnostic {d : Diagnostic}
    (h : l.readLine file shadow s.place (stripQuotes line) = (.diagnostic d, place)) :
    l.advance file shadow s line =
      .ok ⟨place, (l.analyzer.amend s.held d).2,
        s.found ++ (l.analyzer.amend s.held d).1.toList⟩ := by
  unfold advance
  rw [h]

end Steps

/-- From wherever a reader stands, going on line by line gives what the rest of the output comes
to, after what was found so far. -/
theorem foldlM_advance (s : Progress) (lines : List String) :
    (lines.foldlM (l.advance file shadow) s).map (fun s => s.found ++ s.held.toList) =
      (l.verdict s.held (l.readFrom file shadow s.place (lines.map stripQuotes))).map
        (s.found ++ ·) := by
  induction lines generalizing s with
  | nil =>
    unfold verdict
    cases l.settings.ignoreParseErrors <;> rfl
  | cons line rest ih =>
    rw [List.foldlM_cons, List.map_cons, readFrom]
    rcases hread : l.readLine file shadow s.place (stripQuotes line) with ⟨reading, place⟩
    dsimp only
    cases reading with
    | skip =>
      rw [advance_skip hread, verdict_skip]
      exact ih { s with place }
    | fault fault =>
      rw [advance_fault hread, verdict_fault]
      split
      · exact ih { s with place }
      · rfl
    | diagnostic d =>
      -- What is released now stands behind what was found, and in front of all that follows.
      rw [advance_diagnostic hread, verdict_diagnostic]
      refine (ih ⟨place, _, _⟩).trans ?_
      dsimp only
      cases l.verdict (l.analyzer.amend s.held d).2
          (l.readFrom file shadow place (rest.map stripQuotes)) with
      | error failure => rfl
      | ok later => exact congrArg Except.ok (List.append_assoc _ _ _)

/-- Reading line by line gives the diagnostics of the output. -/
theorem scan_eq_diagnostics (lines : List String) :
    l.scan file shadow lines = l.diagnostics file shadow lines := by
  unfold scan
  rw [foldlM_advance, diagnostics_eq_verdict]
  change (l.verdict none (l.readings file shadow lines)).map ([] ++ ·) = _
  cases l.verdict none (l.readings file shadow lines) <;> rfl

/-! ## Strict and lenient reading -/

/-- The linter with its settings changed to pass over lines that are not understood, or not to. -/
def inMode (l : Linter) (lenient : Bool) : Linter :=
  { l with settings := { l.settings with ignoreParseErrors := lenient } }

/-- What lines say does not depend on what is done about faults. -/
theorem readings_inMode (l : Linter) (lenient : Bool) (file shadow : String)
    (lines : List String) :
    (l.inMode lenient).readings file shadow lines = l.readings file shadow lines := by
  unfold readings
  generalize lines.map stripQuotes = lines
  generalize (none : Option Location) = last
  induction lines generalizing last with
  | nil => rfl
  | cons line rest ih =>
    rw [readFrom, readFrom]
    dsimp only
    rw [ih]
    rfl

/-- With faults passed over, there always is an answer. -/
theorem diagnostics_lenient (l : Linter) (file shadow : String) (lines : List String) :
    (l.inMode true).diagnostics file shadow lines =
      .ok (l.analyzer.stitch none (l.parsed file shadow lines)) := by
  rw [diagnostics_eq_verdict, readings_inMode]
  rfl

/-- Otherwise this is the answer only if there is no fault, and else the first fault is. -/
theorem diagnostics_strict (l : Linter) (file shadow : String) (lines : List String) :
    (l.inMode false).diagnostics file shadow lines =
      match (l.readings file shadow lines).findSome? Reading.fault? with
      | some fault => .error (.parse fault.message)
      | none => .ok (l.analyzer.stitch none (l.parsed file shadow lines)) := by
  rw [diagnostics_eq_verdict, readings_inMode]
  unfold verdict parsed
  cases (l.readings file shadow lines).findSome? Reading.fault? with
  | none => rfl
  | some fault => rfl

/-- Strict and lenient reading agree. Lenient reading always succeeds. Strict reading fails if and
only if some line is not understood when all lines are read in order, and then with what is wrong
with the first such line; otherwise it gives the same as lenient reading. In both modes it is all
the same whether the output is read line by line, up to the line that ends the reading, or as a
whole. -/
theorem modes_agree (l : Linter) (file shadow : String) (lines : List String) :
    (∃ found, (l.inMode true).diagnostics file shadow lines = .ok found) ∧
    ((∃ failure, (l.inMode false).diagnostics file shadow lines = .error failure) ↔
      ∃ before line after fault, lines.map stripQuotes = before ++ line :: after ∧
        l.readAfter file shadow before line = .fault fault) ∧
    (∀ before line after fault, lines.map stripQuotes = before ++ line :: after →
      l.Understands file shadow before → l.readAfter file shadow before line = .fault fault →
      (l.inMode false).diagnostics file shadow lines = .error (.parse fault.message)) ∧
    (l.Understands file shadow (lines.map stripQuotes) →
      (l.inMode false).diagnostics file shadow lines =
        (l.inMode true).diagnostics file shadow lines) ∧
    ∀ lenient, (l.inMode lenient).scan file shadow lines =
      (l.inMode lenient).diagnostics file shadow lines := by
  have hunderstands : l.Understands file shadow (lines.map stripQuotes) →
      (l.inMode false).diagnostics file shadow lines =
        (l.inMode true).diagnostics file shadow lines := by
    intro h
    have hnone : (l.readings file shadow lines).findSome? Reading.fault? = none :=
      List.findSome?_eq_none_iff.2 (understands_iff.1 h)
    rw [diagnostics_strict, hnone, diagnostics_lenient]
  have hfirst : ∀ before line after fault, lines.map stripQuotes = before ++ line :: after →
      l.Understands file shadow before → l.readAfter file shadow before line = .fault fault →
      (l.inMode false).diagnostics file shadow lines = .error (.parse fault.message) := by
    intro before line after fault hlines hbefore hline
    have hsome : (l.readings file shadow lines).findSome? Reading.fault? = some fault :=
      findSome?_fault?_iff.2 ⟨before, line, after, hlines, hbefore, hline⟩
    rw [diagnostics_strict, hsome]
  refine ⟨⟨_, diagnostics_lenient l file shadow lines⟩, ⟨?_, ?_⟩, hfirst, hunderstands,
    fun lenient => scan_eq_diagnostics lines⟩
  · rintro ⟨failure, hfailure⟩
    rw [diagnostics_strict] at hfailure
    cases hfault : (l.readings file shadow lines).findSome? Reading.fault? with
    | none =>
      rw [hfault] at hfailure
      cases hfailure
    | some fault =>
      obtain ⟨before, line, after, hlines, -, hline⟩ := findSome?_fault?_iff.1 hfault
      exact ⟨before, line, after, fault, hlines, hline⟩
  · rintro ⟨before, line, after, fault, hlines, hline⟩
    -- Some line is not understood, so that there is a first one.
    have hfault : ((l.readings file shadow lines).findSome? Reading.fault?).isSome = true := by
      refine Reading.isSome_findSome?_fault?.2 ⟨fault, ?_⟩
      unfold readings
      rw [hlines, readFrom_split, hline]
      exact List.mem_append_right _ List.mem_cons_self
    obtain ⟨first, hsome⟩ := Option.isSome_iff_exists.1 hfault
    obtain ⟨before, line, after, hlines, hbefore, hline⟩ := findSome?_fault?_iff.1 hsome
    exact ⟨_, hfirst before line after first hlines hbefore hline⟩

namespace Elided

/-- PC-lint Plus with the settings that it has at first. -/
def linter : Linter := .make .pclintPlus .initial ∅ "/ws"

/-- A message without a place, in quotes. -/
def message : String := "\"  0 0  note 974: s\""

/-- A message with a place, an empty line, and the message without a place. -/
def lines : List String := ["a.c  3 0  warning 534: w", "", message]

end Elided

open Elided in
/-- The same message is read, or ends a strict reading, as a place was named before it or not. -/
theorem early_message_ends_reading :
    (linter.inMode false).diagnostics "" "" (message :: lines) =
      .error (.parse "Line could not be parsed:   0 0  note 974: s") ∧
    (∃ found, (linter.inMode true).diagnostics "" "" (message :: lines) = .ok found) ∧
    (linter.inMode false).diagnostics "" "" lines =
      (linter.inMode true).diagnostics "" "" lines := by
  obtain ⟨hlenient, -, hfirst, -, -⟩ := modes_agree linter "" "" (message :: lines)
  obtain ⟨-, -, -, hagree, -⟩ := modes_agree linter "" "" lines
  refine ⟨?_, hlenient, hagree (understands_iff.2 (by decide +kernel))⟩
  exact hfirst [] "  0 0  note 974: s" (lines.map stripQuotes) (.form "  0 0  note 974: s")
    (by decide +kernel) (understands_iff.2 (by decide)) (by decide +kernel)

end Linter

end LintRelay
