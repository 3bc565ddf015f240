import LintRelay.Analyzer.Arguments
import LintRelay.Analyzer.Kind
import LintRelay.Analyzer.Reading
import LintRelay.Text.Scan

/-!
# FlawFinder

FlawFinder prints `file:line:column:  [risk] rule:message`. A file name holds no colon, except one
after a drive letter or in front.
-/

namespace LintRelay.FlawFinder

open Text

/-- A nonempty run without colon, and what follows it. -/
def segment? (cs : List Char) : Option (List Char × List Char) :=
  if cs.takeWhile (· ≠ ':') = [] then none
  else some (cs.takeWhile (· ≠ ':'), cs.dropWhile (· ≠ ':'))

/-- A file name after which `read` succeeds: with a drive letter and colon, else with a colon in
front, else without either. -/
def fileHead? {α : Type} (read : List Char → Option α) (cs : List Char) :
    Option (List Char × α) :=
  let from? (head rest : List Char) : Option (List Char × α) := do
    let (name, rest) ← segment? rest
    return (head ++ name, ← read rest)
  match cs with
  | [] => none
  | ':' :: rest => from? [':'] rest
  | c :: ':' :: rest =>
    if c.isAlpha then from? [c, ':'] rest <|> from? [] cs else from? [] cs
  | _ => from? [] cs

/-- The risk levels. -/
def risks : List String := ["0", "1", "2", "3", "4", "5"]

/-- A column number, if one stands in front, and what follows it; then a colon may stand. -/
def column (cs : List Char) : List Char × List Char :=
  let (ds, rest) := (digits? isDecimalDigit cs).getD ([], cs)
  (ds, (expect? ":" rest).getD rest)

/-- What follows the file name of a report. -/
def tail? (cs : List Char) : Option Report := do
  let (line, cs) ← digits? isDecimalDigit (← expect? ":" cs)
  let (column, cs) := column (← expect? ":" cs)
  let (word, cs) ← oneOf? risks (← expect? "  [" cs)
  let (code, cs) ← segment? (← expect? "] " cs)
  let message ← nonemptyLine? (← expect? ":" cs)
  return { file := [], line, column, word, code, message }

/-- A report. -/
def report? (cs : List Char) : Option Report :=
  (fileHead? tail? cs).map fun (file, report) => { report with file }

/-- Lines that are passed over. -/
def isNoise (cs : List Char) : Bool := cs = [] || (isLine cs && startsWith "Examining " cs)

/-- What a line says. -/
def read (levels : SeverityTable) (line : String) : Reading :=
  let cs := line.toList
  if isNoise cs then .skip
  else
    match report? cs with
    | none => .fault (.form line)
    | some report =>
      report.read levels Analyzer.flawFinder.name (String.ofList report.file)
        (zeroBased report.line) (zeroBased report.column)

/-- The command line after the program. -/
def groups (file : String) : List ArgumentGroup :=
  [.fixed ["--columns", "--dataonly", "--singleline", Path.commandForm file]]

end LintRelay.FlawFinder
