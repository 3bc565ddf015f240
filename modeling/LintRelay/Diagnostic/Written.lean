import LintRelay.Diagnostic
import LintRelay.Settings.Field
import LintRelay.Text.Digit

/-!
# Diagnostics in writing

A diagnostic is written as an object, or as the array of its seven fields. The code may be missing
or `null`, and nothing else may.
-/

namespace LintRelay.Diagnostic

/-- The diagnostic as an object, without the code if there is none. -/
def toJson (d : Diagnostic) : Json :=
  .object (
    [("fileName", .string d.fileName), ("line", .nat d.line), ("column", .nat d.column),
      ("severity", .string d.severity.name)]
    ++ (d.code.map fun code => ("code", Json.string code)).toList
    ++ [("message", .string d.message), ("source", .string d.source)])

/-- A number that fits in 32 bits. -/
def word? : Json → Option Nat
  | .integer (.ofNat n) => if n < Text.wordBound then some n else none
  | _ => none

/-- A rule name, or `null` for none. -/
def code? : Json → Option (Option String)
  | .null => some none
  | .string s => some (some s)
  | _ => none

/-- The diagnostic with the given field values. -/
def ofParts? (fileName line column severity code message source : Json) : Option Diagnostic := do
  return {
    fileName := ← fileName.text?
    line := ← word? line
    column := ← word? column
    severity := ← (Codec.severity.decode severity).toOption
    code := ← code? code
    message := ← message.text?
    source := ← source.text? }

/-- The diagnostic that a value stands for. -/
def ofJson? : Json → Option Diagnostic
  | .array [fileName, line, column, severity, code, message, source] =>
    ofParts? fileName line column severity code message source
  | json => do
    ofParts? (← json.field? "fileName") (← json.field? "line") (← json.field? "column")
      (← json.field? "severity") ((json.field? "code").getD .null) (← json.field? "message")
      (← json.field? "source")

end LintRelay.Diagnostic
