import LintRelay.Failure

/-!
# Processes

An analyzer is run as a process: a call goes out, and its output comes back. What runs a call is a
parameter (`Runner`), so everything around it is a function of the answers.
-/

namespace LintRelay

/-- A program to start. -/
structure Call where
  /-- The program. -/
  program : String
  /-- Its arguments. -/
  arguments : List String
  /-- The directory it is started in. -/
  directory : String
deriving DecidableEq, Repr

/-- What a process leaves. -/
structure ProcessOutput where
  /-- The exit status; none if the process was killed. -/
  status : Option Int
  /-- The standard output. -/
  stdout : String
  /-- The standard error output. -/
  stderr : String
deriving DecidableEq, Repr

/-- The lines of a text, without carriage returns. A final newline ends an empty line. -/
def outputLines (text : String) : List String :=
  (text.toList.splitOn '\n').map fun line => String.ofList (line.filter (· ≠ '\r'))

/-- The lines of both outputs. -/
def ProcessOutput.lines (output : ProcessOutput) : List String :=
  outputLines output.stdout ++ outputLines output.stderr

/-- How calls are answered. -/
abbrev Runner := Call → Except Failure ProcessOutput

end LintRelay
