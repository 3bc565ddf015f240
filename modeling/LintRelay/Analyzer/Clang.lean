import LintRelay.Analyzer.Arguments
import LintRelay.Analyzer.Kind
import LintRelay.Analyzer.Reading
import LintRelay.Text.Scan

/-!
# Clang

Clang is run for its diagnostics only. It prints `file:line:column: severity: message`, and
`In file included from file:line:` in front of a report from an included file. While a document is
edited, Clang reads a shadow copy of the unsaved text, and what it reports on the shadow is
attributed to the document.
-/

namespace LintRelay.Clang

open Text

/-- The severity words. -/
def words : List String := ["fatal", "error", "warning", "note"]

/-- What follows the file name of a report. -/
def tail? (cs : List Char) : Option Report := do
  let cs ← expect? ":" cs
  let (line, cs) ← digits? Char.isDigit cs
  let cs ← expect? ":" cs
  let (column, cs) ← digits? Char.isDigit cs
  let cs ← blank? (← expect? ":" cs)
  let (word, cs) ← oneOf? words cs
  let cs := (expect? " error" cs).getD cs
  let cs ← blank? (← expect? ":" cs)
  return { file := [], line, column, word, code := [], message := ← line? cs }

/-- A report. -/
def report? (cs : List Char) : Option Report :=
  (shortestHead tail? cs).map fun (file, report) => { report with file }

/-- The line number of an inclusion note, which ends the line. -/
def inclusionTail? (cs : List Char) : Option (List Char) := do
  let (line, cs) ← digits? Char.isDigit (← expect? ":" cs)
  if cs = [':'] then some line else none

/-- An inclusion note: file name and line number. -/
def inclusion? (cs : List Char) : Option (List Char × List Char) :=
  (expect? "In file included from " cs).bind (shortestHead inclusionTail?)

/-- Warnings of Clang about its own command line. -/
def isOwnWarning (cs : List Char) : Bool :=
  match expect? "warning: " cs with
  | none => false
  | some rest =>
    contains " incompatible with " rest || endsWith " input unused" rest
      || match expect? "include location " rest with
        | none => false
        | some rest => contains " is unsafe for cross-compilation" rest

/-- Lines that are passed over. -/
def isNoise (cs : List Char) : Bool :=
  cs = [] || (isLine cs
    && (startsWith "WX" cs || startsWith "_WX" cs || startsWith "__WX" cs || startsWith "Q_" cs
      || isOwnWarning cs))

/-- The file that a reported name stands for: the document, if the name is that of its shadow as it
was made or as it was handed to Clang. -/
def realFile (file shadow reported : String) : String :=
  if reported ≠ "" ∧ (reported = shadow ∨ reported = Path.commandForm shadow) then file
  else reported

/-- What a line says, for the document `file` with the given shadow. -/
def read (levels : SeverityTable) (file shadow line : String) : Reading :=
  let cs := line.toList
  if isNoise cs then .skip
  else
    match inclusion? cs with
    | some (included, number) =>
      .diagnostic
        { fileName := realFile file shadow (String.ofList included)
          line := zeroBased number
          column := 0
          severity := .warning
          code := none
          message := "Issues in file included from here"
          source := Analyzer.clang.name }
    | none =>
      match report? cs with
      | none => .fault (.form line)
      | some report =>
        report.read levels Analyzer.clang.name
          (realFile file shadow (String.ofList report.file))
          (zeroBased report.line) (zeroBased report.column)

/-- The directory of a file, in either convention of separators. -/
def directory (file : String) : String :=
  let above := file.toList.reverse.dropWhile fun c => !Path.isSeparator c
  match above with
  | [] => "."
  | [separator] => String.ofList [separator]
  | _ :: rest => String.ofList rest.reverse

/-- The flags in front of every command line. -/
def flags : List String :=
  ["-fsyntax-only", "-fno-color-diagnostics", "-fno-caret-diagnostics",
    "-fno-diagnostics-show-option", "-fdiagnostics-show-category=name", "-ferror-limit=200"]

/-- The command line after the program, for a document and the file that Clang reads for it. -/
def groups (s : ClangSettings) (options : Options) (run : Trigger) (file target : String) :
    List ArgumentGroup :=
  [.fixed flags,
    .paired "-iquote" (if run = .onType then directory file :: options.includePaths else []),
    .standards options.standard,
    .toggle s.pedantic "-pedantic",
    .toggle s.pedanticErrors "-pedantic-errors",
    .joined "--stdlib=" s.standardLibs,
    .toggle s.msExtensions "-fms-extensions",
    .toggle s.noExceptions "-fno-exceptions",
    .toggle s.noRtti "-fno-rtti",
    .toggle s.blocks "-fblocks",
    .paired "-include" s.includes,
    .joined "-W" s.warnings,
    .joined "-D" options.defines,
    .joined "-U" options.undefines,
    .paired "-I" options.includePaths,
    .fixed ["-x", options.language.name],
    .joined "" s.extraArgs,
    .fixed [Path.commandForm target]]

end LintRelay.Clang
