import LintRelay.Diagnostic
import LintRelay.Settings
import LintRelay.Text.Digit

/-!
# What a line of output says

A line of an analyzer's output is either passed over, or it is a diagnostic, or it is not
understood.
-/

namespace LintRelay

/-- Why a line is not understood. -/
inductive LineFault where
  /-- The line has none of the forms that the analyzer prints. -/
  | form (line : String)
  /-- The line's severity word is not in the analyzer's table. -/
  | severity (word : String)
deriving DecidableEq, Repr

/-- The report of a line that is not understood. -/
def LineFault.message : LineFault → String
  | .form line => "Line could not be parsed: " ++ line
  | .severity word => "No severity mapping for '" ++ word ++ "'"

/-- What a line says. -/
inductive Reading where
  /-- Nothing: the line is passed over. -/
  | skip
  /-- A diagnostic. -/
  | diagnostic (report : Diagnostic)
  /-- The line is not understood. -/
  | fault (reason : LineFault)
deriving DecidableEq, Repr

namespace Reading

/-- The diagnostic of a line, if it is one. -/
def diagnostic? : Reading → Option Diagnostic
  | .diagnostic d => some d
  | .skip | .fault _ => none

/-- The fault of a line, if it is not understood. -/
def fault? : Reading → Option LineFault
  | .fault f => some f
  | .skip | .diagnostic _ => none

end Reading

/-- A place in a file, as a line of output gives it. -/
structure Location where
  /-- The file name as it was printed. -/
  fileName : String
  /-- The line, from zero. -/
  line : Nat
deriving DecidableEq, Repr

/-- The fields of a line that has the form of a report: texts as they were printed. -/
structure Report where
  /-- The file name. -/
  file : List Char
  /-- The line number. -/
  line : List Char
  /-- The column number, empty if there is none. -/
  column : List Char
  /-- The severity word. -/
  word : String
  /-- The rule, empty if there is none. -/
  code : List Char
  /-- The message. -/
  message : List Char
deriving DecidableEq, Repr

/-- Reads a report with the severity that the table gives its word. -/
def Report.read (report : Report) (levels : SeverityTable) (source : String)
    (fileName : String) (line column : Nat) : Reading :=
  match levels.get? report.word with
  | none => .fault (.severity report.word)
  | some severity =>
    .diagnostic
      { fileName, line, column, severity
        code := ruleCode (String.ofList report.code)
        message := String.ofList report.message
        source }

end LintRelay
