import LintRelay.Linter
import LintRelay.Settings.Written
import LintRelay.Tree

/-!
# Hosts

A host is what the program finds around it: a file tree, a working directory, the directories in
which programs are looked up, and the environment. It answers calls (`Host.run`), finds programs
(`Host.findProgram?`) and files (`Host.locate?`), and with them makes linters ready
(`Host.configure`).
-/

namespace LintRelay

/-- The surroundings of the program. -/
structure Host where
  /-- The file tree. -/
  tree : Tree
  /-- The working directory. -/
  directory : String
  /-- The directories in which programs are looked up, joined by colons. -/
  path : Option String
  /-- A directory that is searched before all others. -/
  extraDirectory : Option String
  /-- The environment. -/
  environment : Variables

/-- The linter, switched off for a reason. -/
def Linter.disable (l : Linter) (reason : ProbeError) : Linter :=
  { l with enabled := false, probeError := some reason }

namespace Host

/-! ## Processes -/

/-- The directories of a search path. -/
def splitPath (path : String) : List String := (path.toList.splitOn ':').map String.ofList

/-- Whether a directory from which a program cannot be started ends the search for it. It does not
if the program is not there or may not be run. -/
def endsSearch : TreeError → Bool
  | .missing | .denied | .notDirectory => false
  | .isDirectory | .tooLong | .zeroCharacter | .noText => true

/-- The first program with a name in a list of directories. If there is none, what counts is that
one may not be run (`denied`), and otherwise the error in the last directory (`last`). -/
def startFrom (h : Host) (call : Call) (denied : Bool) (last : TreeError) :
    List String → Except TreeError Program
  | [] => .error (if denied then .denied else last)
  | dir :: rest =>
    match h.tree.program call.directory (Path.join dir call.program) with
    | .ok program => .ok program
    | .error e =>
      if endsSearch e then .error e
      else h.startFrom call (denied || e = .denied) e rest

/-- The program that a call starts. A name without slash is looked up in the search path. -/
def startable (h : Host) (call : Call) : Except TreeError Program :=
  if call.program.toList.contains '/' then h.tree.program call.directory call.program
  else if call.program = "" then .error .missing
  else if nameLimit < call.program.utf8ByteSize then .error .tooLong
  else h.startFrom call false .missing (splitPath (h.path.getD ""))

/-- Whether a call can be handed to the system: no part of it holds a zero character. -/
def isPassable (call : Call) : Bool :=
  (call.program :: call.directory :: call.arguments).all (!·.toList.contains '\x00')

/-- Starts a program in its directory and gives its output. The program can read all files that hold
a text. -/
def run (h : Host) : Runner := fun call =>
  if isPassable call then
    let started : Except TreeError Program :=
      match h.tree.stat h.directory call.directory with
      | .error e => .error e
      | .ok (.file ..) => .error .notDirectory
      | .ok .directory => h.startable call
    match started with
    | .error e => .error (.spawn call.program e.message)
    | .ok program =>
      .ok (program (fun path => (h.tree.readText call.directory path).toOption)
        call.arguments).decode
  else .error (.spawn call.program "nul byte found in provided data")

/-! ## Looking up -/

/-- The directories without those that have the same steps as an earlier one. -/
def distinctDirectories (dirs : List String) : List String := keepDistinct [] dirs
where
  /-- The directories that are not among those seen. -/
  keepDistinct (seen : List String) : List String → List String
    | [] => []
    | dir :: rest =>
      if seen.any (Path.same dir) then keepDistinct seen rest
      else dir :: keepDistinct (seen ++ [dir]) rest

/-- The search path: the extra directory, and then the directories of the host's path, each once.
Directories cannot be joined if the name of one holds a colon; the path is then empty. -/
def searchPath (h : Host) : String :=
  let dirs := distinctDirectories (h.extraDirectory.toList ++ ((h.path.map splitPath).getD []))
  if dirs.any (·.toList.contains ':') then "" else ":".intercalate dirs

/-- The user's own directory, if the environment names one. -/
def home? (h : Host) : Option String := (h.environment.get? "HOME").filter (· ≠ "")

/-- A directory of the search path, where a first step `~` stands for the user's own directory. -/
def expandHome (h : Host) (directory : String) : String :=
  match Path.components directory.toList, h.home? with
  | .name ['~'] :: steps, some home =>
    String.ofList (steps.foldl (fun path step => Path.joinChars path step.text) home.toList)
  | _, _ => directory

/-- The program that a name stands for: itself if it is absolute, taken from `directory` if it has a
directory part, and otherwise the first in the search path, whose directories are taken from
`directory` too. -/
def findProgram? (h : Host) (name directory : String) : Option String :=
  let fromHere (path : String) : String :=
    String.ofList (Path.fromDirectory directory.toList path.toList)
  if name = "" then none
  else if 1 < Path.depth name then
    let path := fromHere name
    if h.tree.isProgram h.directory path then some path else none
  else
    ((splitPath h.searchPath).map fun dir => Path.join (fromHere (h.expandHome dir)) name).find?
      (h.tree.isProgram h.directory)

/-- The file with a given name that may be opened: the name itself if it is absolute, and otherwise
the nearest in the directory and those above it. -/
def locate? (h : Host) (directory name : String) : Option String :=
  if Path.isRooted name.toList then
    if h.tree.isReadable h.directory name then some name else none
  else
    ((Path.ancestors directory).map (Path.join · name)).find? (h.tree.isReadable h.directory)

/-- The names of settings files, in the order in which they are looked for. -/
def settingsFiles : List String := [".flylint.jsonc", ".flylint.json"]

/-- The settings file that applies to a directory: the nearest in it and those above it. -/
def settingsFile? (h : Host) (directory : String) : Option String :=
  ((Path.ancestors directory).flatMap fun dir => settingsFiles.map (Path.join dir)).find?
    (h.tree.isFile h.directory)

/-- The settings in a file. -/
def readSettings (h : Host) (path : String) : Except SettingsError Settings :=
  match h.tree.readText h.directory path with
  | .error e => .error (.unreadable path e.message)
  | .ok text => Settings.ofText text

/-! ## Making linters ready -/

/-- The linter with its program and, if it needs one, its configuration file; switched off if one of
them is not found. -/
def probe (h : Host) (l : Linter) : Linter :=
  if l.enabled then
    match h.findProgram? l.executable l.root with
    | none => l.disable (.noExecutable l.name)
    | some executable =>
      let l := { l with executable }
      if l.analyzer.requiresConfig then
        match h.locate? l.root (l.vars.expandOrSelf l.configFile) with
        | none => l.disable (.noConfig l.name)
        | some configFile => { l with configFile }
      else l
  else l

/-- The linters that the settings ask for, each probed. -/
def configure (h : Host) (settings : Settings) (root : String) : List Linter :=
  ((Analyzer.all.map fun a => Linter.make a settings h.environment root).filter
    Linter.isActive).map h.probe

end Host

/-- The log of probing linters. -/
def Linter.probeLog (linters : List Linter) : List LogEntry :=
  linters.filterMap fun l => l.probeError.map fun e => ⟨.warn, e.message⟩

end LintRelay
