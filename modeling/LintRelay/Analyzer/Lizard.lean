import LintRelay.Analyzer.FlawFinder

/-!
# Lizard

Lizard prints `file:line: warning: message` for a function that is too complex. All its reports are
warnings under one rule.
-/

namespace LintRelay.Lizard

open Text

/-- The rule of every report. -/
def rule : String := "Cyclomatic complexity"

/-- What follows the file name of a report: line number and message. -/
def tail? (cs : List Char) : Option (List Char × List Char) := do
  let (line, cs) := FlawFinder.column (← expect? ":" cs)
  return (line, ← nonemptyLine? (← expect? " warning: " cs))

/-- A report: file name, line number and message. -/
def report? (cs : List Char) : Option (List Char × List Char × List Char) :=
  FlawFinder.fileHead? tail? cs

/-- What a line says. -/
def read (line : String) : Reading :=
  if line = "" then .skip
  else
    match report? line.toList with
    | none => .fault (.form line)
    | some (file, number, message) =>
      .diagnostic
        { fileName := String.ofList file
          line := zeroBased number
          column := 0
          severity := .warning
          code := some rule
          message := String.ofList message
          source := Analyzer.lizard.name }

/-- The command line after the program. -/
def groups (s : LizardSettings) (file : String) : List ArgumentGroup :=
  [.fixed ["--warnings_only"], .joined "" s.extraArgs, .fixed [Path.commandForm file]]

end LintRelay.Lizard
