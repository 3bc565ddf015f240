import LintRelay.Analyzer.Clang
import LintRelay.Analyzer.CppCheck
import LintRelay.Analyzer.FlawFinder
import LintRelay.Analyzer.Flexelint
import LintRelay.Analyzer.Lizard
import LintRelay.Analyzer.PclintPlus
import LintRelay.Process

/-!
# Linters

A linter is an analyzer made ready for a workspace: its settings, the variables they may refer to,
and the program to run. It builds command lines (`commandLine`), reads the output of a run
(`diagnostics`), and does both around a process (`lint`).
-/

namespace LintRelay

/-- Why a linter was switched off. -/
inductive ProbeError where
  /-- Its program was not found. -/
  | noExecutable (name : String)
  /-- Its configuration file was not found. -/
  | noConfig (name : String)
deriving DecidableEq, Repr

/-- The report of a probe error. -/
def ProbeError.message : ProbeError → String
  | .noExecutable name => "The executable was not found for " ++ name ++ ", disabling linter"
  | .noConfig name => "could not locate configuration file for " ++ name ++ ", disabling linter"

namespace Settings

/-- Whether an analyzer's own block switches it on. -/
def isOn (s : Settings) : Analyzer → Bool
  | .clang => s.clang.enable
  | .cppCheck => s.cppcheck.enable
  | .flexelint => s.flexelint.enable
  | .pclintPlus => s.pclintplus.enable
  | .flawFinder => s.flawfinder.enable
  | .lizard => s.lizard.enable

/-- The program of an analyzer. -/
def executable (s : Settings) : Analyzer → String
  | .clang => s.clang.executable
  | .cppCheck => s.cppcheck.executable
  | .flexelint => s.flexelint.executable
  | .pclintPlus => s.pclintplus.executable
  | .flawFinder => s.flawfinder.executable
  | .lizard => s.lizard.executable

/-- The configuration file of an analyzer, empty for the two that have none. -/
def configFile (s : Settings) : Analyzer → String
  | .clang => s.clang.configFile
  | .cppCheck => s.cppcheck.configFile
  | .flexelint => s.flexelint.configFile
  | .pclintPlus => s.pclintplus.configFile
  | .flawFinder | .lizard => ""

/-- The overrides in an analyzer's block. -/
def overrides (s : Settings) : Analyzer → Overrides
  | .clang => s.clang.overrides
  | .cppCheck => s.cppcheck.overrides
  | .flexelint => s.flexelint.overrides
  | .pclintPlus => s.pclintplus.overrides
  | .flawFinder => s.flawfinder.overrides
  | .lizard => s.lizard.overrides

/-- The options of an analyzer after the cascade. -/
def optionsFor (s : Settings) (a : Analyzer) : Options := s.options.cascade (s.overrides a)

end Settings

/-- An analyzer made ready for a workspace. -/
structure Linter where
  /-- The analyzer. -/
  analyzer : Analyzer
  /-- The settings it was made from. -/
  settings : Settings
  /-- The root of the workspace, which is also where its process starts. -/
  root : String
  /-- The variables that its settings may refer to. -/
  vars : Variables
  /-- The program to run. -/
  executable : String
  /-- Its configuration file. -/
  configFile : String
  /-- Whether it takes part in passes. -/
  enabled : Bool
  /-- Why it was switched off, if it was. -/
  probeError : Option ProbeError

namespace Linter

/-- Whether both the master switch and the analyzer's own are on. -/
def isActive (l : Linter) : Bool := l.settings.enable && l.settings.isOn l.analyzer

/-- The linter of an analyzer, not yet probed. -/
def make (a : Analyzer) (settings : Settings) (environment : Variables) (root : String) :
    Linter where
  analyzer := a
  settings := settings
  root := root
  vars := .ofWorkspace environment root
  executable := settings.executable a
  configFile := settings.configFile a
  enabled := settings.enable && settings.isOn a
  probeError := none

/-- The linter's name. -/
def name (l : Linter) : String := l.analyzer.name

/-- The options of the linter. -/
def options (l : Linter) : Options := l.settings.optionsFor l.analyzer

/-- The file that stands for a document: its shadow while it is edited, and the document
otherwise. -/
def target (l : Linter) (file shadow : String) : String :=
  if l.settings.run = .onType then shadow else file

/-! ## The command line -/

/-- The command line after the program. -/
def groups (l : Linter) (file shadow : String) : List ArgumentGroup :=
  match l.analyzer with
  | .clang => Clang.groups l.settings.clang l.options l.settings.run file (l.target file shadow)
  | .cppCheck => CppCheck.groups l.settings.cppcheck l.vars l.options file
  | .flexelint => Flexelint.groups l.settings.flexelint l.configFile file
  | .pclintPlus => PclintPlus.groups l.settings.pclintplus l.configFile file
  | .flawFinder => FlawFinder.groups file
  | .lizard => Lizard.groups l.settings.lizard file

/-- The arguments for a document. -/
def arguments (l : Linter) (file shadow : String) : List String :=
  (l.groups file shadow).flatMap (ArgumentGroup.arguments l.vars)

/-- The program and its arguments for a document. -/
def commandLine (l : Linter) (file shadow : String) : List String :=
  l.executable :: l.arguments file shadow

/-! ## Reading output -/

/-- What a line says, given the place that was named last, and the place to remember after it. Only
one analyzer makes use of the place. -/
def readLine (l : Linter) (file shadow : String) (last : Option Location) (line : String) :
    Reading × Option Location :=
  match l.analyzer with
  | .clang => (Clang.read l.settings.clang.severityLevels file shadow line, last)
  | .cppCheck => (CppCheck.read l.settings.cppcheck.severityLevels line, last)
  | .flexelint => (Flexelint.read l.settings.flexelint.severityLevels line, last)
  | .pclintPlus => PclintPlus.read l.settings.pclintplus.severityLevels last line
  | .flawFinder => (FlawFinder.read l.settings.flawfinder.severityLevels line, last)
  | .lizard => (Lizard.read line, last)

/-- What a line says on its own. -/
def readAlone (l : Linter) (line : String) : Reading := (l.readLine "" "" none line).1

/-- What lines say one after the other, from a place that was named last. -/
def readFrom (l : Linter) (file shadow : String) :
    Option Location → List String → List Reading
  | _, [] => []
  | last, line :: rest =>
    let (reading, next) := l.readLine file shadow last line
    reading :: l.readFrom file shadow next rest

/-- A line without one pair of equal quotes around it. -/
def stripQuotes (line : String) : String :=
  match line.toList with
  | q :: rest =>
    if (q = '"' || q = '\x27') && rest.getLast? = some q then String.ofList rest.dropLast else line
  | [] => line

/-- What lines say one after the other, each without the quotes around it. -/
def readings (l : Linter) (file shadow : String) (lines : List String) : List Reading :=
  l.readFrom file shadow none (lines.map stripQuotes)

end Linter

/-- What a diagnostic does to the one held back before it: the one held back, possibly amended, and
the diagnostic to hold back next. A continuation amends the one before it, or nothing, and is not
held back itself. -/
def Analyzer.amend (a : Analyzer) (held : Option Diagnostic) (d : Diagnostic) :
    Option Diagnostic × Option Diagnostic :=
  match a with
  | .flexelint =>
    match Flexelint.citation? d.code with
    | none => (held, some d)
    | some citation =>
      if d.message = citation then (held, none)
      else (held.map fun h => { h with line := d.line, column := d.column }, none)
  | .pclintPlus =>
    if d.code = some PclintPlus.completionCode then (held, none) else (held, some d)
  | .clang | .cppCheck | .flawFinder | .lizard => (held, some d)

/-- The diagnostics of a run, with continuations worked in: at most one diagnostic is held back, and
the next one releases it. -/
def Analyzer.stitch (a : Analyzer) : Option Diagnostic → List Diagnostic → List Diagnostic
  | held, [] => held.toList
  | held, d :: rest =>
    let (released, next) := a.amend held d
    released.toList ++ a.stitch next rest

namespace Linter

/-- The diagnostics in the output of a run. Output that is not understood is an error, or else is
passed over, as the settings say. -/
def diagnostics (l : Linter) (file shadow : String) (lines : List String) :
    Except Failure (List Diagnostic) :=
  let readings := l.readings file shadow lines
  match l.settings.ignoreParseErrors, readings.findSome? Reading.fault? with
  | false, some fault => .error (.parse fault.message)
  | _, _ => .ok (l.analyzer.stitch none (readings.filterMap Reading.diagnostic?))

/-- The log of reading output: what is passed over although it is not understood. -/
def readLog (l : Linter) (file shadow : String) (lines : List String) : List LogEntry :=
  if l.settings.ignoreParseErrors then
    (l.readings file shadow lines).filterMap fun reading =>
      reading.fault?.map fun fault => ⟨.warn, fault.message⟩
  else []

/-! ## Running -/

/-- The call for a document; none if the linter is switched off. -/
def call? (l : Linter) (file shadow directory : String) : Option Call :=
  if l.enabled then some ⟨l.executable, l.arguments file shadow, directory⟩ else none

/-- The diagnostics of a run on a document; none if the linter is switched off. -/
def lint (l : Linter) (runner : Runner) (file shadow directory : String) :
    Except Failure (List Diagnostic) :=
  match l.call? file shadow directory with
  | none => .ok []
  | some call => do
    let output ← runner call
    l.diagnostics file shadow output.lines

/-- The text of an exit status in the log. -/
def statusText : Option Int → String
  | none => "None"
  | some n => "Some(" ++ toString n ++ ")"

/-- The log of a run on a document. -/
def lintLog (l : Linter) (runner : Runner) (file shadow directory : String) : List LogEntry :=
  match l.call? file shadow directory with
  | none => []
  | some call =>
    (l.groups file shadow).flatMap (ArgumentGroup.log l.vars) ++
      match runner call with
      | .error _ => []
      | .ok output =>
        (if output.status = some 0 then []
          else [⟨.info, l.name ++ " exited with status code " ++ statusText output.status⟩])
          ++ l.readLog file shadow output.lines

end Linter

end LintRelay
