/-!
# Diagnostics

A diagnostic is one report of an analyzer, in the analyzer's own terms: the file name as it was
printed, and a position that starts at zero. It has one of four severities, with their names and the
numbers that editors use for them.
-/

namespace LintRelay

/-! ## Severities -/

/-- How grave a finding is, gravest first. -/
inductive Severity where
  /-- Has to be fixed. -/
  | error
  /-- Should be looked at. -/
  | warning
  /-- For information. -/
  | information
  /-- A remark of little weight. -/
  | hint
deriving DecidableEq, Repr, Inhabited

/-- Why a value is no severity. -/
inductive SeverityError where
  /-- No severity has this name. -/
  | name (text : String)
  /-- No severity has this number. -/
  | level (number : Nat)
deriving DecidableEq, Repr

/-- The report of a severity error. -/
def SeverityError.message : SeverityError → String
  | .name text => "invalid severity '" ++ text ++ "'"
  | .level number => "invalid severity level " ++ toString number

namespace Severity

/-- The severity's name. -/
def name : Severity → String
  | .error => "Error"
  | .warning => "Warning"
  | .information => "Information"
  | .hint => "Hint"

/-- The severity's name in lower case. -/
def lowerName : Severity → String
  | .error => "error"
  | .warning => "warning"
  | .information => "information"
  | .hint => "hint"

/-- The severity's number in the editor protocol. -/
def number : Severity → Nat
  | .error => 1
  | .warning => 2
  | .information => 3
  | .hint => 4

/-- All severities, gravest first. -/
def all : List Severity := [.error, .warning, .information, .hint]

/-- The severity with a given name. -/
def ofName (text : String) : Except SeverityError Severity :=
  match all.find? (·.name = text) with
  | some s => .ok s
  | none => .error (.name text)

/-- The severity with a given number. -/
def ofNumber (n : Nat) : Except SeverityError Severity :=
  match all.find? (·.number = n) with
  | some s => .ok s
  | none => .error (.level n)

end Severity

/-! ## Reports of analyzers -/

/-- One report of an analyzer. -/
structure Diagnostic where
  /-- The file name as the analyzer printed it. -/
  fileName : String
  /-- The line, from zero. -/
  line : Nat
  /-- The column, from zero; zero also where the analyzer gives none. -/
  column : Nat
  /-- How grave the report is. -/
  severity : Severity
  /-- The rule that was broken, if the analyzer names one. -/
  code : Option String
  /-- What the analyzer says. -/
  message : String
  /-- The analyzer's name. -/
  source : String
deriving DecidableEq, Repr

/-- A rule name, where the empty text stands for none. -/
def ruleCode (text : String) : Option String := if text = "" then none else some text

end LintRelay
