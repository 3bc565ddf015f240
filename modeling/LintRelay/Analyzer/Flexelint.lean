import LintRelay.Analyzer.CppCheck

/-!
# Flexelint

Flexelint is asked to print `file  line column  severity code: message`. A report with the code 830
or 831 belongs to the report before it: unless it only announces a citation, it moves that report to
the line it cites.
-/

namespace LintRelay.Flexelint

open Text

/-- The severity words. -/
def words : List String := ["Info", "Warning", "Error", "Note"]

/-- What follows the place of a report: severity word, code and message. -/
def statement? (words : List String) (cs : List Char) :
    Option (String × List Char × List Char) := do
  let (word, cs) ← oneOf? words cs
  let (code, cs) ← digits? Char.isDigit (← blank? cs)
  let message ← line? (← blank? (← expect? ":" cs))
  return (word, code, message)

/-- What follows the file name of a report. -/
def tail? (words : List String) (cs : List Char) : Option Report := do
  let cs ← blank? (← blank? cs)
  let (line, cs) ← digits? Char.isDigit cs
  let (column, cs) := CppCheck.column (← blank? cs)
  let (word, code, message) ← statement? words (← blank? cs)
  return { file := [], line, column, word, code, message }

/-- A report. -/
def report? (cs : List Char) : Option Report :=
  (shortestHead (tail? words) cs).map fun (file, report) => { report with file }

/-- A line that only names a file: two blanks, the word `File`, and a blank. -/
def isFileLine (cs : List Char) : Bool :=
  ((blank? cs).bind blank?).any fun rest => ((expect? "File" rest).bind blank?).any isLine

/-- Lines that are passed over. -/
def isNoise (cs : List Char) : Bool :=
  cs = [] || (isLine cs && startsWith "During Specific Walk:" cs) || isFileLine cs

/-- What a line says. Columns are not used. -/
def read (levels : SeverityTable) (line : String) : Reading :=
  let cs := line.toList
  if isNoise cs then .skip
  else
    match report? cs with
    | none => .fault (.form line)
    | some report =>
      report.read levels Analyzer.flexelint.name (String.ofList report.file)
        (zeroBased report.line) 0

/-- The message of a report that only announces a citation, for the two codes that cite. -/
def citation? (code : Option String) : Option String :=
  if code = some "830" then some "Location cited in prior message"
  else if code = some "831" then some "Reference cited in prior message"
  else none

/-- The command line after the program. -/
def groups (s : FlexelintSettings) (configFile file : String) : List ArgumentGroup :=
  [.fixed ["-v", "-b", "-format=%f  %l %c  %t %n: %m", configFile, "-hsFr_1", "-width(4096,0)",
      "-zero(400)"],
    .fixed (if isHeader file then s.headerArgs else []),
    .fixed [Path.commandForm file]]

end LintRelay.Flexelint
