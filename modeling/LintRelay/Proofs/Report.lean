import LintRelay.Proofs.CommandLine
import LintRelay.Proofs.Failure
import LintRelay.Proofs.Json

/-!
# What a run over files prints

A run over files either stops, with status 2 and nothing printed, or reports on all of them
(`lint_report_spec`). What it found is one list: file by file as they are named, in each the files
of its outcome by identity, and their findings as they stand there (`listing`). The status, the
entries of the text, their number in its last line and the JSON report are all told by that list.

What the JSON report says is told by reading what is printed, first as JSON and then as findings
(`findingsOfJson?`), since its places count from zero and those of the text from one.
-/

namespace LintRelay

/-! ## Reading findings -/

/-- A natural number, or nothing. -/
def Json.nat? : Json → Option Nat
  | .integer (.ofNat n) => some n
  | _ => none

/-- The place that an object stands for. -/
def Position.ofJson? (json : Json) : Option Position := do
  let line ← (← json.field? "line").nat?
  let character ← (← json.field? "character").nat?
  return ⟨line, character⟩

/-- The stretch of text that an object stands for. -/
def TextRange.ofJson? (json : Json) : Option TextRange := do
  let start ← Position.ofJson? (← json.field? "start")
  let stop ← Position.ofJson? (← json.field? "end")
  return ⟨start, stop⟩

/-- The finding that an object stands for. -/
def Finding.ofJson? (json : Json) : Option Finding := do
  let range ← TextRange.ofJson? (← json.field? "range")
  let severity ← (Severity.ofName (← (← json.field? "severity").text?)).toOption
  let message ← (← json.field? "message").text?
  let source ← (← json.field? "source").text?
  return ⟨range, severity, (json.field? "code").bind Json.text?, message, source⟩

/-- The findings of an outcome with their files: by identity, and then in the order of the list. -/
def Outcome.listing (o : Outcome) : List (String × Finding) :=
  o.files.entries.flatMap fun (file, findings) => findings.map fun f => (file, f)

namespace Outcome

end Outcome

namespace CommandLine

/-- The findings under the name of a file. -/
def entryOfJson? (entry : String × Json) : Option (List (String × Finding)) :=
  match entry.2 with
  | .array items => (items.mapM Finding.ofJson?).map (List.map fun f => (entry.1, f))
  | _ => none

/-- The findings in the report on a file. -/
def reportOfJson? (json : Json) : Option (List (String × Finding)) :=
  match json.field? "files" with
  | some (.object entries) => (entries.mapM entryOfJson?).map List.flatten
  | _ => none

/-- The findings that a JSON report lists. -/
def findingsOfJson? : Json → Option (List (String × Finding))
  | .array reports => (reports.mapM reportOfJson?).map List.flatten
  | _ => none

/-- An entry: a file, a line and a column, and what a finding says about the place. -/
def entryText (file : String) (line column : Nat) (f : Finding) : String :=
  file ++ ":" ++ toString line ++ ":" ++ toString column ++ ": " ++ f.severity.lowerName ++ " "
    ++ (match f.code with
      | some code => "[" ++ code ++ "] "
      | none => "")
    ++ f.message ++ " (" ++ f.source ++ ")"

/-- The entries of findings, with lines and columns from one. -/
def entriesOf (found : List (String × Finding)) : List String :=
  found.map fun (file, f) =>
    entryText file (f.range.start.line + 1) (f.range.start.character + 1) f

/-- The last line of a report. -/
def closingText (files analyzers issues : Nat) : String :=
  "Checked " ++ toString files ++ " files with " ++ toString analyzers ++ " analyzers, found "
    ++ toString issues ++ " issues"

/-- The absolute path of a file. -/
def pathOf (host : Host) (file : String) : String :=
  (Path.absolute? host.directory file).getD host.directory

/-- The text of a file. -/
def textOf (host : Host) (file : String) : Except TreeError String :=
  host.tree.readText host.directory (pathOf host file)

/-- The outcome of the pass over a file that can be read. -/
def outcomeOf (host : Host) (settings : Settings) (root file : String) : Outcome :=
  Pass.run (host.configure settings root)
    (requestFor settings root (pathOf host file) ((textOf host file).toOption.getD "")) host.run

/-- What a run over files finds. -/
def listing (host : Host) (settings : Settings) (root : String) (files : List String) :
    List (String × Finding) :=
  files.flatMap fun file => (outcomeOf host settings root file).listing

section Analyze

variable {host : Host} {settings : Settings} {root : String} {files : List String}

end Analyze

section ReportsOf

variable (host : Host) (settings : Settings) (root : String) (files : List String)

end ReportsOf

/-- What a run reports that is carried out: its status, and what it prints in either format. -/
structure Reports (host : Host) (settings : Settings) (root : String) (files : List String)
    (format : Format) (result : Result) : Prop where
  /-- The status is 1 if an error is found or an analyzer fails. -/
  status_eq_one : result.status = 1 ↔
    (∃ found ∈ listing host settings root files, found.2.severity = .error) ∨
    ∃ file ∈ files, ∃ l ∈ host.configure settings root, ∃ failure,
      l.lint host.run (pathOf host file) "" root = .error failure
  /-- Otherwise it is 0. -/
  status_eq_zero : result.status ≠ 1 → result.status = 0
  /-- The text has an entry for each finding, a blank line, and the counts. -/
  text : format = .text → result.stdout =
    printLines (entriesOf (listing host settings root files) ++
      ["", closingText files.length ((host.configure settings root).countP (·.enabled))
        (listing host settings root files).length])
  /-- The JSON report lists the same findings, as what is printed tells when it is read. -/
  json : format = .json →
    (Json.read? result.stdout).bind findingsOfJson? = some (listing host settings root files)

namespace TwoFiles

/-- A host with two source files and Lizard, which says the same about one of them each time. There
are two more files: one that may not be opened, and one that holds no text. -/
def host : Host where
  tree := ((((Tree.empty.add "/ws/a.c" (.file (.text "int a;") none)).add
    "/ws/b.c" (.file (.text "") none)).add "/ws/secret.c" (.file .locked none)).add
    "/ws/image.c" (.file .bytes none)).add
    "/bin/lizard" (.file .bytes (some fun _ _ =>
      ⟨some 0, "a.c:3: warning: long".toUTF8.toList, []⟩))
  directory := "/ws"
  path := some "/bin"
  extraDirectory := none
  environment := ∅

/-- What Lizard says, at a place. -/
def finding (range : TextRange) : Finding :=
  ⟨range, .warning, some "Cyclomatic complexity", "long", "Lizard"⟩

/-- What a run over both files finds. In the file that is analyzed itself, the line is that file's
last one, and all of it is marked. -/
def found : List (String × Finding) :=
  [("/ws/a.c", finding ⟨⟨2, 0⟩, ⟨2, 1⟩⟩), ("/ws/a.c", finding ⟨⟨0, 0⟩, ⟨0, 6⟩⟩)]

end TwoFiles

end CommandLine

end LintRelay
