import LintRelay.Log
import LintRelay.Path.Local
import LintRelay.Variables

/-!
# Arguments

A command line is a list of argument groups. Some arguments are fixed. Others come from a list of
settings, each entry with its variables expanded; an entry that does not expand is left out, and the
log tells so.
-/

namespace LintRelay

/-- A part of a command line. -/
inductive ArgumentGroup where
  /-- Arguments as they stand. -/
  | fixed (arguments : List String)
  /-- One argument for each value, with the flag directly in front. -/
  | joined (flag : String) (values : List String)
  /-- Two arguments for each value: the flag, and the value. -/
  | paired (flag : String) (values : List String)
deriving DecidableEq, Repr

namespace ArgumentGroup

/-- The arguments of a value: none if it does not expand. -/
def expanded (vars : Variables) (attach : String → List String) (value : String) : List String :=
  match vars.expand value with
  | .ok text => attach text
  | .error _ => []

/-- The arguments of a group. -/
def arguments (vars : Variables) : ArgumentGroup → List String
  | .fixed args => args
  | .joined flag values => values.flatMap (expanded vars fun text => [flag ++ text])
  | .paired flag values => values.flatMap (expanded vars fun text => [flag, text])

/-- The log entry for a value that does not expand. -/
def dropped (vars : Variables) (flag value : String) : Option LogEntry :=
  match vars.expand value with
  | .ok _ => none
  | .error e => some ⟨.warn, "Dropping '" ++ flag ++ value ++ "': " ++ e.message⟩

/-- The log entries of a group. -/
def log (vars : Variables) : ArgumentGroup → List LogEntry
  | .fixed _ => []
  | .joined flag values | .paired flag values => values.filterMap (dropped vars flag)

/-- A fixed argument that is there only if a switch is on. -/
def toggle (on : Bool) (flag : String) : ArgumentGroup := .fixed (if on then [flag] else [])

/-- The standards to check against: the configured ones, or a default pair if none is. -/
def standards (configured : List String) : ArgumentGroup :=
  .joined "--std=" (if configured = [] then ["c11", "c++11"] else configured)

end ArgumentGroup

/-- The extensions of header files. -/
def headerExtensions : List String := ["h", "H", "hh", "hpp", "h++", "hxx"]

/-- Whether a file name is that of a header. -/
def isHeader (fileName : String) : Bool :=
  (Path.extension? fileName).any (headerExtensions.contains ·)

end LintRelay
