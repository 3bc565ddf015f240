import LintRelay.Diagnostic
import LintRelay.Json
import LintRelay.Text.Encoding
import LintRelay.Text.Scan

/-!
# Findings

A finding is a diagnostic made ready for a file: it has a range in place of a line and column.
Findings are totally ordered, by range, severity, source, code and message, and two findings are
doubles if they say the same about the same line (`isDouble`).
-/

namespace LintRelay

/-- A place in a text. -/
structure Position where
  /-- The line, from zero. -/
  line : Nat
  /-- The offset in the line, in UTF-16 units. -/
  character : Nat
deriving DecidableEq, Repr

/-- A stretch of text. -/
structure TextRange where
  /-- Where it begins. -/
  start : Position
  /-- Where it ends. -/
  stop : Position
deriving DecidableEq, Repr

/-- A report on a file. -/
structure Finding where
  /-- Where the report applies. -/
  range : TextRange
  /-- How grave it is. -/
  severity : Severity
  /-- The rule that was broken, if there is a name for it. -/
  code : Option String
  /-- What it says. -/
  message : String
  /-- The analyzer it comes from. -/
  source : String
deriving DecidableEq, Repr

/-- Removes every element that is alike to an earlier one. -/
def keepFirst {α : Type} (alike : α → α → Bool) : List α → List α
  | [] => []
  | a :: rest => a :: (keepFirst alike rest).filter fun b => !alike a b

namespace Finding

/-- The order of findings: by start, end, severity, source, code and message. -/
def order : Finding → Finding → Ordering :=
  compareLex (compareOn (·.range.start.line)) <|
  compareLex (compareOn (·.range.start.character)) <|
  compareLex (compareOn (·.range.stop.line)) <|
  compareLex (compareOn (·.range.stop.character)) <|
  compareLex (compareOn (·.severity.number)) <|
  compareLex (compareOn (·.source)) <|
  compareLex (compareOn (·.code)) <|
  compareOn (·.message)

/-- Whether `a` comes before `b` or is the same. -/
def le (a b : Finding) : Bool := (order a b).isLE

/-- Whether `a` comes before `b` and is not the same. -/
def precedes (a b : Finding) : Bool := order a b = .lt

/-- Whether `a` starts before `b` or at the same place. -/
def startsUpTo (a b : Finding) : Bool :=
  (compareLex (compareOn (·.range.start.line)) (compareOn (·.range.start.character)) a b).isLE

/-- Whether two findings of one file say the same about the same line. -/
def isDouble (a b : Finding) : Bool :=
  a.range.start.line = b.range.start.line && a.code = b.code && a.message = b.message

/-! ## From diagnostics -/

/-- The stretch of a line that a diagnostic without column marks: from its first character that is
no blank, or its beginning if there is none, to its end. -/
def contentSpan (line : List Char) : Nat × Nat :=
  let indent := line.takeWhile Text.isBlank
  (if indent.length = line.length then 0 else Text.units indent, Text.units line)

/-- The range of a diagnostic, given the lines of the document if it is about the document. In a
document the line is at most its last one, and a diagnostic without column marks the whole line. -/
def rangeOf (line column : Nat) (lines : List (List Char)) : TextRange :=
  match lines[min line (lines.length - 1)]? with
  | none => ⟨⟨line, column⟩, ⟨line, column + 1⟩⟩
  | some text =>
    let line := min line (lines.length - 1)
    if column = 0 then
      let (start, stop) := contentSpan text
      ⟨⟨line, start⟩, ⟨line, stop⟩⟩
    else ⟨⟨line, column⟩, ⟨line, column + 1⟩⟩

/-- The finding of a diagnostic. The lines are those of the document, or none if the diagnostic is
about another file. -/
def ofDiagnostic (d : Diagnostic) (lines : List (List Char)) : Finding where
  range := rangeOf d.line d.column lines
  severity := d.severity
  code := d.code
  message := if d.message = "" then "Unknown error" else d.message
  source := d.source

end Finding

/-! ## In writing -/

/-- A place as an object. -/
def Position.toJson (p : Position) : Json :=
  .object [("character", .nat p.character), ("line", .nat p.line)]

/-- A stretch of text as an object. -/
def TextRange.toJson (r : TextRange) : Json :=
  .object [("end", r.stop.toJson), ("start", r.start.toJson)]

/-- A finding as an object, with the given value for its severity. -/
def Finding.toJsonWith (severity : Severity → Json) (f : Finding) : Json :=
  .object (
    (f.code.map fun code => ("code", Json.string code)).toList
    ++ [("message", .string f.message), ("range", f.range.toJson),
      ("severity", severity f.severity), ("source", .string f.source)])

/-- A finding as an object, with the name of its severity. -/
def Finding.toJson (f : Finding) : Json := f.toJsonWith fun s => .string s.name

end LintRelay
