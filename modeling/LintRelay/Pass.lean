import LintRelay.Finding
import LintRelay.Linter
import LintRelay.Path.Identity

/-!
# Passes

A pass runs linters over one document and collects what they report. Reports on files outside the
workspace or in an excluded directory are left out, and of doubles the one that comes first in order
is kept (`keep`). What is kept is then grouped by file and brought in order (`regroup`). A linter
that fails leaves an error and does not disturb the others.
-/

namespace LintRelay

/-- What a pass is about. -/
structure PassRequest where
  /-- The document. -/
  file : String
  /-- The root of the workspace. -/
  root : String
  /-- The copy of the document with its unsaved text; empty if there is none. -/
  shadow : String
  /-- The text of the document. -/
  text : String
  /-- What set off the pass. -/
  trigger : Trigger
  /-- Directories whose findings are left out. -/
  excluded : List String
  /-- Whether the log tells about the pass. -/
  debug : Bool

/-- What a pass found. -/
structure Outcome where
  /-- The identity of the document. -/
  document : String
  /-- The findings of each file, by identity. -/
  files : Table (List Finding)
  /-- The number of linters that took part. -/
  analyzersRun : Nat
  /-- What went wrong, without repeats. -/
  errors : List String

namespace Outcome

/-- The number of findings. -/
def count (o : Outcome) : Nat := o.files.values.foldr (fun findings n => findings.length + n) 0

/-- Whether some finding is an error. -/
def hasErrors (o : Outcome) : Bool :=
  o.files.values.any fun findings => findings.any (·.severity = .error)

end Outcome

/-- Adds an error, unless it is noted already. -/
def noteError (errors : List String) (message : String) : List String :=
  if errors.contains message then errors else errors ++ [message]

/-- All errors as one text, one on a line. -/
def errorSummary? (errors : List String) : Option String :=
  if errors = [] then none else some ("\n".intercalate errors)

namespace PassRequest

/-- The lines of the document, without carriage returns at their ends. -/
def lines (r : PassRequest) : List (List Char) :=
  (r.text.toList.splitOn '\n').map fun line =>
    if line.getLast? = some '\r' then line.dropLast else line

/-- The identity of a file name. -/
def identity (r : PassRequest) (name : String) : String := Path.identity name r.root

/-- The identity of the document. -/
def document (r : PassRequest) : String := r.identity r.file

/-- Whether findings of a file are kept: it lies in the workspace and in no excluded directory. -/
def keeps (r : PassRequest) (id : String) : Bool :=
  Path.isWithin id (r.identity "") && !r.excluded.any fun dir => Path.isWithin id (r.identity dir)

/-- The finding of a diagnostic, with the identity of its file. -/
def locate (r : PassRequest) (d : Diagnostic) : String × Finding :=
  let id := r.identity d.fileName
  (id, .ofDiagnostic d (if id = r.document then r.lines else []))

/-- The findings that are kept. -/
def select (r : PassRequest) (diagnostics : List Diagnostic) : List (String × Finding) :=
  (diagnostics.map r.locate).filter fun found => r.keeps found.1

end PassRequest

namespace Pass

/-- Whether two findings, each with the identity of its file, are doubles in one file. -/
def isDouble (a b : String × Finding) : Bool := a.1 = b.1 && a.2.isDouble b.2

/-- Takes in a finding: it replaces its double if it precedes that, and is left out otherwise; a
finding without double is added. -/
def keep (found : String × Finding) : List (String × Finding) → List (String × Finding)
  | [] => [found]
  | other :: rest =>
    if isDouble found other then (if found.2.precedes other.2 then found else other) :: rest
    else other :: keep found rest

/-- What is kept of some findings, taken in one after the other. -/
def collect (found : List (String × Finding)) : List (String × Finding) :=
  found.foldl (fun kept f => keep f kept) []

/-- Adds a finding to those of its file. -/
def enter (files : Table (List Finding)) (found : String × Finding) : Table (List Finding) :=
  files.insert found.1 (files.getD found.1 [] ++ [found.2])

/-- What was kept, file by file and in order. -/
def regroup (kept : List (String × Finding)) : Table (List Finding) :=
  (kept.foldl enter ∅).map (·.mergeSort Finding.le)

/-- The error of a linter that failed. -/
def errorText (l : Linter) (failure : Failure) (file : String) : String :=
  l.name ++ ": " ++ failure.message ++ " while validating " ++ file

/-- What each linter reports on the document. -/
def results (linters : List Linter) (r : PassRequest) (runner : Runner) :
    List (Linter × Except Failure (List Diagnostic)) :=
  linters.map fun l => (l, l.lint runner r.file r.shadow r.root)

/-- The calls that a pass makes. -/
def calls (linters : List Linter) (r : PassRequest) : List Call :=
  linters.filterMap fun l => l.call? r.file r.shadow r.root

/-- Runs the linters over the document. The order in which `regroup` goes through what was kept is
the one in which it was taken in; any other gives the same. -/
def run (linters : List Linter) (r : PassRequest) (runner : Runner) : Outcome :=
  let results := results linters r runner
  let found := r.select (results.flatMap fun (_, result) => result.toOption.getD [])
  { document := r.document
    files := regroup (collect found)
    analyzersRun := linters.countP (·.enabled)
    errors := (results.filterMap fun (l, result) =>
      match result with
      | .ok _ => none
      | .error failure => some (errorText l failure r.file)).foldl noteError [] }

/-- The log of a pass. -/
def log (linters : List Linter) (r : PassRequest) (runner : Runner) : List LogEntry :=
  let work := linters.flatMap fun l => l.lintLog runner r.file r.shadow r.root
  if r.debug then
    ⟨.info, "Performing lint scan of " ++ r.file ++ " (" ++ r.trigger.logName ++ ")..."⟩ ::
      work ++ [⟨.info, "Completed lint scans of " ++ r.file⟩]
  else work

end Pass

end LintRelay
