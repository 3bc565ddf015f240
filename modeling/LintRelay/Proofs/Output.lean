import LintRelay.Linter

/-!
# What an output is read as

The lines of an output are read one after the other. For all analyzers but one a line says the same
wherever it stands (`Linter.readings_eq_map`), so that an output is read by parts
(`Linter.parsed_append`). What an output gives is told by the diagnostics in it (`Linter.parsed`)
and by whether it is understood (`Linter.Accepts`), in `Linter.diagnostics_eq_ok_iff`.
-/

namespace LintRelay

namespace Reading

/-- The diagnostics among readings. -/
theorem mem_diagnostics {readings : List Reading} {d : Diagnostic} :
    d ∈ readings.filterMap diagnostic? ↔ .diagnostic d ∈ readings := by
  have hreading : ∀ reading : Reading, reading.diagnostic? = some d ↔ reading = .diagnostic d := by
    intro reading
    cases reading <;> simp [diagnostic?]
  simp only [List.mem_filterMap, hreading]
  exact ⟨fun ⟨_, hmem, heq⟩ => heq ▸ hmem, fun hmem => ⟨_, hmem, rfl⟩⟩

/-- Whether there is a fault among readings. -/
theorem isSome_findSome?_fault? {readings : List Reading} :
    (readings.findSome? fault?).isSome = true ↔ ∃ f, .fault f ∈ readings := by
  have hreading : ∀ reading : Reading, reading.fault?.isSome = true ↔ ∃ f, reading = .fault f := by
    intro reading
    cases reading <;> simp [fault?]
  simp only [List.isSome_findSome?, List.any_eq_true, hreading]
  exact ⟨fun ⟨_, hmem, f, heq⟩ => ⟨f, heq ▸ hmem⟩, fun ⟨f, hmem⟩ => ⟨_, hmem, f, rfl⟩⟩

end Reading

namespace Linter

/-! ## Line by line -/

/-- What a line of output says if the linter looks at no other line. -/
def readOutput (l : Linter) (file shadow line : String) : Reading :=
  (l.readLine file shadow none (stripQuotes line)).1

/-- An empty line says nothing. -/
theorem readOutput_empty (l : Linter) (file shadow : String) :
    l.readOutput file shadow "" = .skip := by
  unfold readOutput readLine
  cases l.analyzer with
  | clang => rfl
  | cppCheck => rfl
  | flexelint => rfl
  | pclintPlus => rfl
  | flawFinder => rfl
  | lizard => rfl

/-- The lines are read one by one, unless a line may leave out the place that was named before. -/
theorem readings_eq_map {l : Linter} (hl : l.analyzer ≠ .pclintPlus) (file shadow : String)
    (lines : List String) :
    l.readings file shadow lines = lines.map (l.readOutput file shadow) := by
  have hline : ∀ last line,
      l.readLine file shadow last line = ((l.readLine file shadow none line).1, last) := by
    intro last line
    unfold readLine
    cases h : l.analyzer with
    | clang | cppCheck | flexelint | flawFinder | lizard => rfl
    | pclintPlus => exact absurd h hl
  have hfrom : ∀ last, l.readFrom file shadow last (lines.map stripQuotes) =
      lines.map (l.readOutput file shadow) := by
    intro last
    induction lines with
    | nil => rfl
    | cons line rest ih =>
      rw [List.map_cons, readFrom, hline]
      dsimp only
      rw [ih]
      rfl
  exact hfrom none

/-! ## Diagnostics -/

/-- The diagnostics among the lines of an output, as they were printed. -/
def parsed (l : Linter) (file shadow : String) (lines : List String) : List Diagnostic :=
  (l.readings file shadow lines).filterMap Reading.diagnostic?

/-- Whether the output is understood, as far as the settings demand it. -/
def Accepts (l : Linter) (file shadow : String) (lines : List String) : Prop :=
  l.settings.ignoreParseErrors = true ∨
    ∀ reading ∈ l.readings file shadow lines, reading.fault? = none

variable {l : Linter} {file shadow : String} {lines others : List String}

/-- Output that is understood gives the diagnostics in it, with continuations worked in, and other
output gives none. -/
theorem diagnostics_eq_ok_iff {found : List Diagnostic} :
    l.diagnostics file shadow lines = .ok found ↔ l.Accepts file shadow lines ∧
      l.analyzer.stitch none (l.parsed file shadow lines) = found := by
  have hnone : (l.readings file shadow lines).findSome? Reading.fault? = none ↔
      ∀ reading ∈ l.readings file shadow lines, reading.fault? = none :=
    List.findSome?_eq_none_iff
  unfold diagnostics Accepts parsed
  dsimp only
  rw [← hnone]
  cases l.settings.ignoreParseErrors with
  | true => simp
  | false =>
    -- The first fault is the answer, and only without one are there diagnostics.
    cases (l.readings file shadow lines).findSome? Reading.fault? with
    | none => simp
    | some fault => simp

/-- Two parts of an output are read one after the other. -/
theorem readings_append (hl : l.analyzer ≠ .pclintPlus) :
    l.readings file shadow (lines ++ others) =
      l.readings file shadow lines ++ l.readings file shadow others := by
  rw [readings_eq_map hl, readings_eq_map hl, readings_eq_map hl, List.map_append]

/-- The diagnostics among the lines, where the lines are read one by one. -/
theorem parsed_eq (hl : l.analyzer ≠ .pclintPlus) :
    l.parsed file shadow lines =
      (lines.map (l.readOutput file shadow)).filterMap Reading.diagnostic? := by
  rw [parsed, readings_eq_map hl]

/-- The diagnostics of two parts of an output. -/
theorem parsed_append (hl : l.analyzer ≠ .pclintPlus) :
    l.parsed file shadow (lines ++ others) =
      l.parsed file shadow lines ++ l.parsed file shadow others := by
  rw [parsed_eq hl, parsed_eq hl, parsed_eq hl, List.map_append, List.filterMap_append]

/-- If an output is understood, so are its parts. -/
theorem accepts_append (hl : l.analyzer ≠ .pclintPlus) :
    l.Accepts file shadow (lines ++ others) ↔
      l.Accepts file shadow lines ∧ l.Accepts file shadow others := by
  unfold Accepts
  rw [readings_append hl, List.forall_mem_append, or_and_left]

end Linter

end LintRelay
