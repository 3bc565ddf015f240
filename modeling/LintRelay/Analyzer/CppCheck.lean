import LintRelay.Analyzer.Arguments
import LintRelay.Analyzer.Kind
import LintRelay.Analyzer.Reading
import LintRelay.Text.Scan

/-!
# CppCheck

CppCheck is asked to print `file  line  severity id: message`; a column may stand after the line.
-/

namespace LintRelay.CppCheck

open Text

/-- The severity words. -/
def words : List String :=
  ["style", "information", "portability", "performance", "warning", "error"]

/-- The rule and the message at the end of a report. -/
def closing? (cs : List Char) : Option (List Char) := do line? (← blank? (← expect? ":" cs))

/-- A column number with the blank after it, if one stands in front. -/
def column (cs : List Char) : List Char × List Char :=
  match digits? Char.isDigit cs with
  | none => ([], cs)
  | some (ds, rest) =>
    match blank? rest with
    | none => ([], cs)
    | some rest => (ds, rest)

/-- What follows the file name of a report. -/
def tail? (cs : List Char) : Option Report := do
  let cs ← blank? (← blank? cs)
  let (line, cs) ← digits? Char.isDigit cs
  let (column, cs) := column (← blank? cs)
  let (word, cs) ← oneOf? words (← blank? cs)
  let (code, message) ← shortestHead closing? (← blank? cs)
  return { file := [], line, column, word, code, message }

/-- A report. -/
def report? (cs : List Char) : Option Report :=
  (shortestHead tail? cs).map fun (file, report) => { report with file }

/-- A line that says that some check is switched off. -/
def isDisabledCheck (cs : List Char) : Bool :=
  match expect? "cppcheck: " cs with
  | none => false
  | some rest =>
    match before? " check".toList rest.dropLast with
    | none => false
    | some rest => contains " Disabling " (rest.drop 1)

/-- A line about a missing include file. -/
def isMissingInclude (cs : List Char) : Bool :=
  match afterFirst? "information".toList cs with
  | none => false
  | some rest => contains "missingInclude" rest

/-- Lines that are passed over. -/
def isNoise (cs : List Char) : Bool :=
  cs = [] || (isLine cs
    && (["Checking ", "Active checkers:", "Defines:", "Undefines:", "Includes:", "Platform:"].any
        (startsWith · cs)
      || isMissingInclude cs || isDisabledCheck cs))

/-- What a line says. -/
def read (levels : SeverityTable) (line : String) : Reading :=
  let cs := line.toList
  if isNoise cs then .skip
  else
    match report? cs with
    | none => .fault (.form line)
    | some report =>
      report.read levels Analyzer.cppCheck.name (String.ofList report.file)
        (zeroBased report.line) (zeroBased report.column)

/-- The checks that are always on. -/
def checks : String := "warning,style,performance,portability,information"

/-- The command line after the program. -/
def groups (s : CppCheckSettings) (vars : Variables) (options : Options) (file : String) :
    List ArgumentGroup :=
  let platform := if s.platform = "" then "native" else vars.expandOrSelf s.platform
  [.fixed ["--inline-suppr",
      "--enable=" ++ checks ++ if s.unusedFunctions then ",unusedFunction" else ""],
    .joined "--addon=" s.addons,
    .paired "-I" options.includePaths,
    .standards options.standard,
    .joined "-D" options.defines,
    .joined "-U" options.undefines,
    .joined "--suppress=" s.suppressions,
    .fixed ["--language=" ++ options.language.name, "--platform=" ++ platform,
      "--template=\"\x7bfile\x7d  \x7bline\x7d  \x7bseverity\x7d \x7bid\x7d: \x7bmessage\x7d\""],
    .joined "" s.extraArgs,
    .toggle s.verbose "--verbose",
    .toggle s.force "--force",
    .toggle s.inconclusive "--inconclusive",
    .fixed [Path.commandForm file]]

end LintRelay.CppCheck
