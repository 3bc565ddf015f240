import LintRelay.Analyzer.Flexelint

/-!
# PC-lint Plus

PC-lint Plus is asked to print `file  line column  severity code: message`, with the file name left
out where a message belongs to the place of an earlier one; some configurations make it print
`file:line:column: severity code: message`. The reader remembers the last place that was named.
-/

namespace LintRelay.PclintPlus

open Text

/-- The severity words, each in its two spellings. -/
def words : List String :=
  ["info", "Info", "warning", "Warning", "error", "Error", "note", "Note", "supplemental",
    "Supplemental"]

/-- A severity word in lower case. -/
def lowerWord (word : String) : String := String.ofList (word.toList.map Char.toLower)

/-- A report in the format that was asked for. The file name holds no space and may be missing. -/
def spaced? (cs : List Char) : Option Report :=
  match longestHead (· ≠ ' ') (Flexelint.tail? words) cs with
  | some (file, report) => some { report with file }
  | none => Flexelint.tail? words cs

/-- What follows the file name of a report with colons. -/
def colonTail? (cs : List Char) : Option Report := do
  let (line, cs) ← digits? Char.isDigit (← expect? ":" cs)
  let cs ← expect? ":" cs
  let (column, cs) :=
    match digits? Char.isDigit cs with
    | none => ([], cs)
    | some (ds, rest) =>
      match expect? ":" rest with
      | none => ([], cs)
      | some rest => (ds, rest)
  let (word, code, message) ← Flexelint.statement? words (← blank? cs)
  return { file := [], line, column, word, code, message }

/-- A report in one of the two formats. -/
def report? (cs : List Char) : Option Report :=
  spaced? cs <|> (shortestHead colonTail? cs).map fun (file, report) => { report with file }

/-- A line that names a file after blanks. -/
def isFileLine (cs : List Char) : Bool :=
  cs.head?.any isBlank
    && match expect? "file '" (cs.dropWhile isBlank) with
      | none => false
      | some rest => isLine rest && rest.getLast? = some '\x27'

/-- Lines that are passed over; among them every line that is a single word. -/
def isNoise (cs : List Char) : Bool :=
  isFileLine cs
    || (isLine cs
      && (["PC-lint", "licensed", "LICENSED"].any (startsWith · cs)
        || contains "evaluation license" cs))
    || cs.all fun c => c ≠ ' ' && c ≠ '\t'

/-- What a line says, and the place to remember after it. Columns are not used. -/
def read (levels : SeverityTable) (last : Option Location) (line : String) :
    Reading × Option Location :=
  let cs := line.toList
  if isNoise cs then (.skip, last)
  else
    match report? cs with
    | none => (.fault (.form line), last)
    | some report =>
      let place :=
        if report.file = [] then last
        else some ⟨String.ofList report.file, zeroBased report.line⟩
      match place with
      | none => (.fault (.form line), last)
      | some ⟨fileName, number⟩ =>
        ({ report with word := lowerWord report.word }.read levels Analyzer.pclintPlus.name
          fileName number 0, place)

/-- The code of the message that counts the messages. -/
def completionCode : String := "900"

/-- The command line after the program. -/
def groups (s : PclintPlusSettings) (configFile file : String) : List ArgumentGroup :=
  [.fixed [configFile, "-v", "-b", "-format=%f  %l %c  %t %n: %m", "-h1", "-width(0,0)",
      "-zero(400)"],
    .fixed (if isHeader file then s.headerArgs else []),
    .fixed [Path.commandForm file]]

end LintRelay.PclintPlus
