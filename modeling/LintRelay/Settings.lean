import LintRelay.Settings.Options
import LintRelay.Diagnostic
import LintRelay.Table

/-!
# Settings

One structure holds everything a user can set: switches and triggers, the options shared by all
analyzers, and one block for each analyzer. Every field has a default.
-/

namespace LintRelay

/-- When a document is analyzed. -/
inductive Trigger where
  /-- After it was saved. -/
  | onSave
  /-- While it is edited, on a copy of the unsaved text. -/
  | onType
  /-- After a build. -/
  | onBuild
deriving DecidableEq, Repr, Inhabited

namespace Trigger

/-- The trigger's name in settings. -/
def name : Trigger → String
  | .onSave => "onSave"
  | .onType => "onType"
  | .onBuild => "onBuild"

/-- The trigger's name in the log. -/
def logName : Trigger → String
  | .onSave => "OnSave"
  | .onType => "OnType"
  | .onBuild => "OnBuild"

end Trigger

/-- The severity that stands for each severity word of an analyzer. -/
abbrev SeverityTable := Table Severity

/-- The block of Clang. -/
structure ClangSettings where
  /-- Whether the analyzer is switched on. -/
  enable : Bool
  /-- The program to run. -/
  executable : String
  /-- The name of its configuration file. -/
  configFile : String
  /-- Its severity words. -/
  severityLevels : SeverityTable
  /-- The shared options that it overrides. -/
  overrides : Overrides
  /-- Warning groups. -/
  warnings : List String
  /-- Whether to warn about extensions. -/
  pedantic : Bool
  /-- Whether extensions are errors. -/
  pedanticErrors : Bool
  /-- Whether to accept the extensions of another vendor. -/
  msExtensions : Bool
  /-- Whether to switch exceptions off. -/
  noExceptions : Bool
  /-- Whether to switch run-time type information off. -/
  noRtti : Bool
  /-- Whether to accept blocks. -/
  blocks : Bool
  /-- Files to include in front. -/
  includes : List String
  /-- Standard libraries. -/
  standardLibs : List String
  /-- Further arguments. -/
  extraArgs : List String

/-- The block of CppCheck. -/
structure CppCheckSettings where
  /-- Whether the analyzer is switched on. -/
  enable : Bool
  /-- The program to run. -/
  executable : String
  /-- The name of its configuration file. -/
  configFile : String
  /-- Its severity words. -/
  severityLevels : SeverityTable
  /-- The shared options that it overrides. -/
  overrides : Overrides
  /-- Whether to look for unused functions. -/
  unusedFunctions : Bool
  /-- Whether to print more. -/
  verbose : Bool
  /-- Whether to check all configurations. -/
  force : Bool
  /-- Whether to report what is not certain. -/
  inconclusive : Bool
  /-- The target platform. -/
  platform : String
  /-- Reports to leave out. -/
  suppressions : List String
  /-- Further checks to load. -/
  addons : List String
  /-- Further arguments. -/
  extraArgs : List String

/-- The block of Flexelint. -/
structure FlexelintSettings where
  /-- Whether the analyzer is switched on. -/
  enable : Bool
  /-- The program to run. -/
  executable : String
  /-- The name of its configuration file. -/
  configFile : String
  /-- Its severity words. -/
  severityLevels : SeverityTable
  /-- The shared options that it overrides. -/
  overrides : Overrides
  /-- Arguments for a header file. -/
  headerArgs : List String

/-- The block of PC-lint Plus. -/
structure PclintPlusSettings where
  /-- Whether the analyzer is switched on. -/
  enable : Bool
  /-- The program to run. -/
  executable : String
  /-- The name of its configuration file. -/
  configFile : String
  /-- Its severity words. -/
  severityLevels : SeverityTable
  /-- The shared options that it overrides. -/
  overrides : Overrides
  /-- Arguments for a header file. -/
  headerArgs : List String

/-- The block of FlawFinder. -/
structure FlawFinderSettings where
  /-- Whether the analyzer is switched on. -/
  enable : Bool
  /-- The program to run. -/
  executable : String
  /-- Its risk levels. -/
  severityLevels : SeverityTable
  /-- The shared options that it overrides. -/
  overrides : Overrides

/-- The block of Lizard. -/
structure LizardSettings where
  /-- Whether the analyzer is switched on. -/
  enable : Bool
  /-- The program to run. -/
  executable : String
  /-- The shared options that it overrides. -/
  overrides : Overrides
  /-- Further arguments. -/
  extraArgs : List String

/-- All settings. -/
structure Settings where
  /-- The master switch. -/
  enable : Bool
  /-- Whether the log tells about every pass. -/
  debug : Bool
  /-- When documents are analyzed. -/
  run : Trigger
  /-- Whether output that is not understood is passed over. -/
  ignoreParseErrors : Bool
  /-- Directories whose findings are left out. -/
  excludeFromWorkspacePaths : List String
  /-- The language standards. -/
  standard : List String
  /-- The directories in which included files are looked up. -/
  includePaths : List String
  /-- The macros to define. -/
  defines : List String
  /-- The macros to undefine. -/
  undefines : List String
  /-- The source language. -/
  language : Language
  /-- The block of Clang. -/
  clang : ClangSettings
  /-- The block of CppCheck. -/
  cppcheck : CppCheckSettings
  /-- The block of Flexelint. -/
  flexelint : FlexelintSettings
  /-- The block of PC-lint Plus. -/
  pclintplus : PclintPlusSettings
  /-- The block of FlawFinder. -/
  flawfinder : FlawFinderSettings
  /-- The block of Lizard. -/
  lizard : LizardSettings

/-! ## Defaults -/

/-- The default block of Clang. -/
def ClangSettings.initial : ClangSettings where
  enable := true
  executable := "clang"
  configFile := ".clang_complete"
  severityLevels := .ofList
    [("error", .error), ("fatal", .error), ("warning", .warning), ("note", .information)]
  overrides := .none
  warnings := ["all", "extra", "everything"]
  pedantic := false
  pedanticErrors := false
  msExtensions := false
  noExceptions := true
  noRtti := true
  blocks := true
  includes := []
  standardLibs := []
  extraArgs := []

/-- The default block of CppCheck. -/
def CppCheckSettings.initial : CppCheckSettings where
  enable := true
  executable := "cppcheck"
  configFile := ".clang_complete"
  severityLevels := .ofList
    [("error", .error), ("warning", .warning), ("style", .information), ("performance", .warning),
      ("portability", .warning), ("information", .information)]
  overrides := .none
  unusedFunctions := false
  verbose := false
  force := false
  inconclusive := false
  platform := "native"
  suppressions := []
  addons := []
  extraArgs := []

/-- The arguments that Flexelint and PC-lint Plus get for a header file by default. -/
def initialHeaderArgs : List String :=
  ["-e750", "-e751", "-e752", "-e753", "-e754", "-e1526", "-e1714"]

/-- The default block of Flexelint. -/
def FlexelintSettings.initial : FlexelintSettings where
  enable := true
  executable := "flexelint"
  configFile := "$\x7bworkspaceRoot\x7d/.flexelint.lnt"
  severityLevels := .ofList
    [("Error", .error), ("Warning", .warning), ("Info", .information), ("Note", .hint)]
  overrides := .none
  headerArgs := initialHeaderArgs

/-- The default block of PC-lint Plus. -/
def PclintPlusSettings.initial : PclintPlusSettings where
  enable := true
  executable := "pclp"
  configFile := "$\x7bworkspaceRoot\x7d/.pclint/std.lnt"
  severityLevels := .ofList
    [("error", .error), ("warning", .warning), ("info", .information), ("note", .hint),
      ("supplemental", .hint)]
  overrides := .none
  headerArgs := initialHeaderArgs

/-- The default block of FlawFinder. -/
def FlawFinderSettings.initial : FlawFinderSettings where
  enable := true
  executable := "flawfinder"
  severityLevels := .ofList
    [("5", .error), ("4", .warning), ("3", .information), ("2", .information), ("1", .information),
      ("0", .information)]
  overrides := .none

/-- The default block of Lizard. -/
def LizardSettings.initial : LizardSettings where
  enable := true
  executable := "lizard"
  overrides := .none
  extraArgs := []

/-- The default settings. -/
def Settings.initial : Settings where
  enable := true
  debug := false
  run := .onSave
  ignoreParseErrors := false
  excludeFromWorkspacePaths := []
  standard := ["c99"]
  includePaths := []
  defines := []
  undefines := []
  language := .c
  clang := .initial
  cppcheck := .initial
  flexelint := .initial
  pclintplus := .initial
  flawfinder := .initial
  lizard := .initial

instance : Inhabited Settings := ⟨.initial⟩

/-- The options that every analyzer inherits. -/
def Settings.options (s : Settings) : Options :=
  ⟨s.language, s.standard, s.includePaths, s.defines, s.undefines⟩

end LintRelay
