/-!
# The analyzers

The six analyzers, in the order in which they run.
-/

namespace LintRelay

/-- One of the analyzers. -/
inductive Analyzer where
  | clang
  | cppCheck
  | flexelint
  | pclintPlus
  | flawFinder
  | lizard
deriving DecidableEq, Repr

namespace Analyzer

/-- All analyzers, in the order in which they run. -/
def all : List Analyzer := [.clang, .cppCheck, .flexelint, .pclintPlus, .flawFinder, .lizard]

/-- The analyzer's name, which is also the source of its diagnostics. -/
def name : Analyzer → String
  | .clang => "Clang"
  | .cppCheck => "CppCheck"
  | .flexelint => "Flexelint"
  | .pclintPlus => "PclintPlus"
  | .flawFinder => "FlawFinder"
  | .lizard => "Lizard"

/-- The analyzer with a given name. -/
def ofName? (text : String) : Option Analyzer := all.find? (·.name = text)

/-- Whether the analyzer can run only with a configuration file. -/
def requiresConfig : Analyzer → Bool
  | .flexelint | .pclintPlus => true
  | .clang | .cppCheck | .flawFinder | .lizard => false

end Analyzer

end LintRelay
