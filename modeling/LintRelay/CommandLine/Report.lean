import LintRelay.CommandLine.Arguments
import LintRelay.Finding
import LintRelay.Json.Printer
import LintRelay.Pass

/-!
# Reports

What is printed about the analyzed files: one line for each finding and a summary, or the same as
JSON. Lines and columns count from one in text, and from zero in JSON.
-/

namespace LintRelay.CommandLine

/-- The outcome of the pass over one file. -/
structure FileReport where
  /-- The absolute path of the file. -/
  path : String
  /-- What the pass found. -/
  outcome : Outcome

/-- The line for a finding. -/
def findingLine (file : String) (f : Finding) : String :=
  file ++ ":" ++ toString (f.range.start.line + 1) ++ ":"
    ++ toString (f.range.start.character + 1) ++ ": " ++ f.severity.lowerName ++ " "
    ++ (match f.code with
      | some code => "[" ++ code ++ "] "
      | none => "")
    ++ f.message ++ " (" ++ f.source ++ ")"

/-- The lines for the findings of an outcome. -/
def outcomeLines (o : Outcome) : List String :=
  o.files.entries.flatMap fun (file, findings) => findings.map (findingLine file)

/-- The line that counts files, analyzers and findings. -/
def summaryLine (reports : List FileReport) : String :=
  "Checked " ++ toString reports.length ++ " files with "
    ++ toString (reports.foldl (fun n r => Nat.max n r.outcome.analyzersRun) 0)
    ++ " analyzers, found "
    ++ toString (reports.foldr (fun r n => r.outcome.count + n) 0) ++ " issues"

/-- Lines, each with its newline. -/
def printLines (lines : List String) : String := String.join (lines.map (· ++ "\n"))

/-- The report as text. -/
def textReport (reports : List FileReport) : String :=
  printLines ((reports.flatMap fun r => outcomeLines r.outcome) ++ ["", summaryLine reports])

/-- The report on one file as JSON. -/
def FileReport.toJson (r : FileReport) : Json :=
  .object
    [("analyzers", .nat r.outcome.analyzersRun),
      ("errors", .texts r.outcome.errors),
      ("files", .object (r.outcome.files.entries.map fun (file, findings) =>
        (file, .array (findings.map Finding.toJson)))),
      ("path", .string r.path)]

/-- The report as JSON. -/
def jsonReport (reports : List FileReport) : String :=
  (Json.array (reports.map FileReport.toJson)).pretty ++ "\n"

/-- The report in a format. -/
def report (format : Format) (reports : List FileReport) : String :=
  match format with
  | .text => textReport reports
  | .json => jsonReport reports

/-- The errors of all passes. -/
def failures (reports : List FileReport) : List String := reports.flatMap (·.outcome.errors)

/-- What is said about errors, after a blank line; nothing if there are none. -/
def failureText (reports : List FileReport) : String :=
  match failures reports with
  | [] => ""
  | all =>
    printLines
      ("" :: (toString all.length ++ " analyzer run(s) failed:") :: all.map ("  " ++ ·))

end LintRelay.CommandLine
