import LintRelay.Variables
import LintRelay.Diagnostic

/-!
# Failures

What can go wrong between a settings file and an analyzer's report, with the text of each case in
one place (`Failure.message`).
-/

namespace LintRelay

/-- Why settings are refused. -/
inductive SettingsError where
  /-- The file cannot be read. -/
  | unreadable (path reason : String)
  /-- The text is not in the relaxed JSON format. -/
  | malformed
  /-- A value in a severity table is no severity. -/
  | severity (reason : SeverityError)
  /-- A value has the wrong type or is not one of the words allowed for it. -/
  | illTyped
deriving DecidableEq, Repr

/-- The report of a settings error. -/
def SettingsError.message : SettingsError → String
  | .unreadable path reason => "Failed to read " ++ path ++ ": " ++ reason
  | .malformed => "Invalid JSON"
  | .severity reason => "Invalid settings: " ++ reason.message
  | .illTyped => "Invalid settings"

/-- Why a run of an analyzer gives no diagnostics. -/
inductive Failure where
  /-- The settings are refused. -/
  | settings (reason : SettingsError)
  /-- Some other fault of the configuration. -/
  | config (reason : String)
  /-- A file is at fault. -/
  | file (reason : String)
  /-- The analyzer printed a line that is not understood. -/
  | parse (reason : String)
  /-- The analyzer's process could not be started. -/
  | spawn (program reason : String)
  /-- A setting does not expand. -/
  | expansion (reason : ExpansionError)
  /-- Input or output failed. -/
  | io (reason : String)
  /-- A fault of this program. -/
  | internal (reason : String)
deriving DecidableEq, Repr

/-- The report of a failure. -/
def Failure.message : Failure → String
  | .settings reason => "Configuration error: " ++ reason.message
  | .config reason => "Configuration error: " ++ reason
  | .file reason => "File error: " ++ reason
  | .parse reason => "Parse error: " ++ reason
  | .spawn program reason => "Failed to run '" ++ program ++ "': " ++ reason
  | .expansion reason => "Expansion error: " ++ reason.message
  | .io reason => "I/O error: " ++ reason
  | .internal reason => "Internal error: " ++ reason

end LintRelay
