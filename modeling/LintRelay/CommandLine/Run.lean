import LintRelay.CommandLine.Report
import LintRelay.Host

/-!
# Running a command

A command is a function of the host: it gives an exit status, what is printed, the log, and the
changed tree. Status 0 means no errors, 1 that some finding is an error or some analyzer failed, and
2 that the command could not be carried out; then nothing is printed.
-/

namespace LintRelay.CommandLine

/-- What a run leaves. -/
structure Result where
  /-- The exit status. -/
  status : Nat
  /-- The standard output. -/
  stdout : String
  /-- The log. -/
  log : List LogEntry
  /-- What is said about errors of analyzers. -/
  failureText : String
  /-- The calls that were made. -/
  calls : List Call
  /-- The file tree afterwards. -/
  tree : Tree

/-- An entry for information. -/
def info (message : String) : LogEntry := ⟨.info, message⟩

/-- A run that could not be carried out. -/
def Result.failed (host : Host) (log : List LogEntry) (calls : List Call) (message : String) :
    Result :=
  ⟨2, "", log ++ [⟨.error, message⟩], "", calls, host.tree⟩

/-! ## Analyzing files -/

/-- Settings, the directory they come from, and the log of finding them. -/
structure Configuration where
  /-- The settings, or why there are none. -/
  settings : Except SettingsError Settings
  /-- The directory of the settings file, if there is one. -/
  directory : Option String
  /-- The log. -/
  log : List LogEntry

/-- The settings of a run: from the file that is named, else from the nearest settings file, else
the defaults. -/
def configuration (host : Host) (config : Option String) : Configuration :=
  match config with
  | some path => ⟨host.readSettings path, Path.parent? path, []⟩
  | none =>
    match host.settingsFile? host.directory with
    | some path => ⟨host.readSettings path, Path.parent? path, [info ("Using config: " ++ path)]⟩
    | none => ⟨.ok .initial, none, [info "No config file found, using defaults"]⟩

/-- The workspace root of a run: the directory that is named, else that of the settings file, else
the working directory. -/
def rootOf (host : Host) (workspace directory : Option String) : String :=
  let absolute (path : String) := (Path.absolute? host.directory path).getD host.directory
  match workspace, directory with
  | some dir, _ => absolute dir
  | none, some dir => absolute dir
  | none, none => host.directory

/-- The work on a list of files: the reports so far, the log, the calls, and the file that could not
be read, if one could not. -/
structure Progress where
  /-- The reports, in the order of the files. -/
  reports : List FileReport
  /-- The log. -/
  log : List LogEntry
  /-- The calls that were made. -/
  calls : List Call
  /-- Why the work stopped early. -/
  failure : Option String

/-- The request for a pass over a saved file. -/
def requestFor (settings : Settings) (root path text : String) : PassRequest where
  file := path
  root := root
  shadow := ""
  text := text
  trigger := .onSave
  excluded := settings.excludeFromWorkspacePaths
  debug := settings.debug

/-- Analyzes files one after the other, up to the first that cannot be read. -/
def analyze (host : Host) (settings : Settings) (linters : List Linter) (root : String) :
    List String → Progress
  | [] => ⟨[], [], [], none⟩
  | file :: rest =>
    let path := (Path.absolute? host.directory file).getD host.directory
    match host.tree.readText host.directory path with
    | .error e => ⟨[], [], [], some ("Failed to read " ++ file ++ ": " ++ e.message)⟩
    | .ok text =>
      let request := requestFor settings root path text
      let more := analyze host settings linters root rest
      ⟨⟨path, Pass.run linters request host.run⟩ :: more.reports,
        Pass.log linters request host.run ++ more.log,
        Pass.calls linters request ++ more.calls,
        more.failure⟩

/-- The entries that tell which linters are switched off. -/
def inactiveLog (linters : List Linter) : List LogEntry :=
  linters.filterMap fun l =>
    l.probeError.map fun _ => ⟨.warn, "Unable to activate " ++ l.name ++ " analyzer."⟩

/-- Analyzes files and reports. -/
def runLint (host : Host) (files : List String) (format : Format)
    (workspace config : Option String) : Result :=
  let found := configuration host config
  match found.settings with
  | .error e => .failed host found.log [] (Failure.settings e).message
  | .ok settings =>
    let root := rootOf host workspace (found.directory.filter (· ≠ ""))
    let linters := host.configure settings root
    let log := found.log ++ [info ("Workspace root: " ++ root)] ++ Linter.probeLog linters
      ++ inactiveLog linters
    let done := analyze host settings linters root files
    match done.failure with
    | some reason => .failed host (log ++ done.log) done.calls reason
    | none =>
      let bad := done.reports.any (·.outcome.hasErrors) || failures done.reports ≠ []
      ⟨if bad then 1 else 0, report format done.reports, log ++ done.log,
        failureText done.reports, done.calls, host.tree⟩

/-! ## Writing a settings file -/

/-- The settings file that is written: the defaults, under a comment. -/
def initialFile : String :=
  "// flylint settings. Every analyzer block inherits the top-level options.\n"
    ++ Settings.initial.toJson.pretty ++ "\n"

/-- The name of the settings file that is written. -/
def initialName : String := ".flylint.jsonc"

/-- Writes a settings file with all defaults; one that exists is overwritten only by force. -/
def runInit (host : Host) (force : Bool) : Result :=
  let path := Path.join host.directory initialName
  let written : Result :=
    ⟨0, "", [info ("Created " ++ initialName)], "", [],
      host.tree.add path (.file (.text initialFile) none)⟩
  match host.tree.stat host.directory initialName with
  | .error _ => written
  | .ok node =>
    if force then
      match node with
      | .file .. => written
      | .directory => .failed host [] [] TreeError.isDirectory.message
    else .failed host [] [] "Config file already exists. Use --force to overwrite."

/-! ## All commands -/

/-- The program's name and version. -/
def versionLine : String := "flylint 0.1.0\n"

/-- Runs the program with the given arguments. Wrong arguments end it with status 2. Serving an
editor is not done here: with no input it ends at once. -/
def run (host : Host) (arguments : List String) : Result :=
  match Request.ofArguments? arguments with
  | none => ⟨2, "", [], "", [], host.tree⟩
  | some .version => ⟨0, versionLine, [], "", [], host.tree⟩
  | some .help => ⟨0, "", [], "", [], host.tree⟩
  | some (.run (.lint files format workspace) config) =>
    runLint host files format workspace config
  | some (.run (.init force) _) => runInit host force
  | some (.run .lsp _) => ⟨0, "", [info "flylint LSP server starting..."], "", [], host.tree⟩

/-! ## What a run looks at -/

/-- The paths of settings files that may apply to a directory. -/
def settingsPaths (directory : String) : List String :=
  (Path.ancestors directory).flatMap fun dir => Host.settingsFiles.map (Path.join dir)

/-- The absolute paths that a run reads or tests, apart from those of analyzers. -/
def consulted (directory : String) (arguments : List String) : List String :=
  match Request.ofArguments? arguments with
  | some (.run (.lint files _ _) config) =>
    let settings := match config with
      | some path => [Path.join directory path]
      | none => settingsPaths directory
    settings ++ files.map (Path.join directory)
  | some (.run (.init _) _) => [Path.join directory initialName]
  | _ => []

end LintRelay.CommandLine
