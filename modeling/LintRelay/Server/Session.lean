import LintRelay.Host
import LintRelay.Publication
import LintRelay.Server.Message

/-!
# Sessions

What the server knows between two messages: the open documents, the folders and settings of the
workspace, and for each document the settings, the linters and the version of its latest pass. All
of it is kept by the text of the document's URI. `Session.validate` runs a pass over a document and
tells the editor about it.

What the server does not decide is part of its world: the host, how the editor answers, whether the
unsaved text of a document can be copied and where to (`Scratch`), and in which order it goes
through documents (`Visiting`).
-/

namespace LintRelay.Server

/-- An open document. -/
structure Document where
  /-- What the document is called. -/
  uri : Uri
  /-- Its text. -/
  text : String
  /-- The version of that text. -/
  version : Int
deriving DecidableEq

/-- How the editor answers: with a list of values for the settings of a document, or not at all. -/
structure Editor where
  /-- The answer to a request for settings. -/
  settingsOf : Uri → Option (List Json)

/-- Where unsaved texts are copied to. -/
structure Scratch where
  /-- The directory of the copies. -/
  directory : String
  /-- The directory is absolute. -/
  rooted : Path.isRooted directory.toList = true
  /-- The letters that make the name of the copy of a file a new one. -/
  letters : (file : String) → String
  /-- Whether a file with a text can be made at a path: its name may be one that the file system
  does not take, and the directory may be missing, closed to the server, or full. -/
  accepts : (path text : String) → Bool

/-- The name of the copy of a file: hidden, and with the file's own extension. -/
def Scratch.nameFor (s : Scratch) (file : String) : String :=
  ".flylint-" ++ s.letters file ++ (match Path.extension? file with
    | some ext => "." ++ ext
    | none => "")

/-- The copy of a file with a text, if it can be made. -/
def Scratch.copy? (s : Scratch) (file text : String) : Option String :=
  let path := Path.join s.directory (s.nameFor file)
  if s.accepts path text then some path else none

/-- What is around the server. -/
structure World where
  /-- The host. -/
  host : Host
  /-- The editor. -/
  editor : Editor
  /-- Where unsaved texts are copied to. -/
  scratch : Scratch
  /-- The order in which documents are gone through. -/
  visiting : Visiting

namespace World

/-- What linters are handed for the unsaved text of a file: a copy if documents are analyzed while
they are edited, and the empty text otherwise. There is nothing to hand over if the copy cannot be
made. -/
def shadow? (w : World) (settings : Settings) (file text : String) : Option String :=
  if settings.run = .onType then w.scratch.copy? file text else some ""

/-- How calls are answered during a pass: the copy of the document, if there is one, is there with
its text. -/
def runner (w : World) (request : PassRequest) : Runner :=
  if request.shadow = "" then w.host.run
  else
    Host.run { w.host with
      tree := w.host.tree.add request.shadow (.file (.text request.text) none) }

end World

/-- A pass that waits until the document is left alone. -/
structure Waiting where
  /-- When it is due, in milliseconds. -/
  due : Nat
  /-- The document. -/
  uri : Uri
  /-- The version that set it off. -/
  version : Int
deriving DecidableEq

/-- What the server knows. -/
structure Session where
  /-- The open documents. -/
  documents : Table Document
  /-- The folders of the workspace. -/
  folders : List String
  /-- The settings of the workspace. -/
  shared : Settings
  /-- Whether the settings of a document are asked of the editor. -/
  asksEditor : Bool
  /-- The settings of each document. -/
  settings : Table Settings
  /-- The linters of each document. -/
  linters : Table (List Linter)
  /-- The version of the latest pass over each document. -/
  versions : Table Int
  /-- What the documents report on files. -/
  ledger : Ledger
  /-- The passes that wait, in the order in which they are due. -/
  waiting : List Waiting
  /-- The time, in milliseconds. -/
  now : Nat

/-- A pass that was run. -/
structure PassRecord where
  /-- The document, as it was. -/
  document : Document
  /-- Whether it was run whatever the version. -/
  forced : Bool
  /-- The request. -/
  request : PassRequest
  /-- The settings of the document. -/
  settings : Settings
  /-- The linters that took part. -/
  linters : List Linter
  /-- What it found. -/
  outcome : Outcome

/-- Something that the server notes about its own work. -/
inductive Note where
  /-- The text of a document is kept. -/
  | stored (document : Document)
  /-- What was kept about documents besides their texts is dropped. -/
  | flushed
  /-- A document is not analyzed, since its version had its pass, or since its unsaved text cannot
  be copied. -/
  | declined (document : Document) (settings : Settings) (forced : Bool)

/-- Something that the server does. -/
inductive Event where
  /-- It sends a message. -/
  | sent (message : Message)
  /-- It runs a pass. -/
  | passed (record : PassRecord)
  /-- It has closed a document. -/
  | closed (uri : Uri)
  /-- It notes something. -/
  | noted (note : Note)

/-- The message that an event sends. -/
def Event.message? : Event → Option Message
  | .sent message => some message
  | .passed _ | .closed _ | .noted _ => none

/-- The pass that an event runs. -/
def Event.pass? : Event → Option PassRecord
  | .passed record => some record
  | .sent _ | .closed _ | .noted _ => none

/-- A session and what was done to get there. -/
structure Reaction where
  /-- The session. -/
  session : Session
  /-- The events, in order. -/
  events : List Event

/-- Goes on from where a reaction ends. -/
def Reaction.andThen (r : Reaction) (next : Session → Reaction) : Reaction :=
  let after := next r.session
  ⟨after.session, r.events ++ after.events⟩

/-- The settings that an editor sends; the defaults if it sends none, or none that can be read. -/
def settingsFrom : Option Json → Settings
  | none | some .null => .initial
  | some json => (Settings.ofJson json).toOption.getD .initial

/-- The workspace folder of a file: of those that hold it the deepest, and of equally deep ones the
last; if none does, the directory of the file. -/
def workspaceRoot (folders : List String) (file : String) : String :=
  let deeper (best : Option String) (folder : String) : Option String :=
    match best with
    | none => some folder
    | some other => if Path.depth folder < Path.depth other then some other else some folder
  ((folders.filter (Path.isBelow file)).foldl deeper none).getD ((Path.parent? file).getD file)

/-- The identity of a document's file. -/
def documentIdentity (file : String) : String := Path.identity file file

namespace Session

/-- The session in which nothing has happened. -/
def empty : Session where
  documents := ∅
  folders := []
  shared := .initial
  asksEditor := false
  settings := ∅
  linters := ∅
  versions := ∅
  ledger := .empty
  waiting := []
  now := 0

/-- The session, with no event. -/
def quiet (s : Session) : Reaction := ⟨s, []⟩

/-- The session, after sending messages. -/
def send (s : Session) (messages : List Message) : Reaction := ⟨s, messages.map .sent⟩

/-- An open document. -/
def document? (s : Session) (uri : Uri) : Option Document := s.documents.get? uri.text

/-- The session, after noting something. -/
def note (s : Session) (n : Note) : Reaction := ⟨s, [.noted n]⟩

/-- Keeps the text of a document. -/
def store (s : Session) (d : Document) : Reaction :=
  { s with documents := s.documents.insert d.uri.text d }.note (.stored d)

/-- Drops settings, linters and versions of all documents, for settings of the workspace that may be
new. -/
def flush (s : Session) (shared : Settings) : Reaction :=
  { s with shared, settings := ∅, linters := ∅, versions := ∅ }.note .flushed

/-- Whether a pass at this version or a later one was completed. -/
def isCurrent (s : Session) (uri : Uri) (version : Int) : Bool :=
  match s.versions.get? uri.text with
  | some last => version ≤ last
  | none => false

/-- The settings of a document, which are kept from then on. -/
def settingsOf (w : World) (s : Session) (uri : Uri) : Settings × Reaction :=
  match s.settings.get? uri.text with
  | some settings => (settings, s.quiet)
  | none =>
    let settings :=
      if s.asksEditor then
        match w.editor.settingsOf uri with
        | some answers => settingsFrom answers.head?
        | none => s.shared
      else s.shared
    (settings, { s with settings := s.settings.insert uri.text settings }.send
      (if s.asksEditor then [.askSettings uri] else []))

/-- The notices about linters that are switched off. -/
def inactiveNotices (linters : List Linter) : List Message :=
  linters.filterMap fun l =>
    l.probeError.map fun _ => .display .warning ("Unable to activate " ++ l.name ++ " analyzer.")

/-- The linters of a document, which are kept from then on. -/
def lintersOf (w : World) (s : Session) (uri : Uri) (settings : Settings) (root : String) :
    List Linter × Reaction :=
  match s.linters.get? uri.text with
  | some linters => (linters, s.quiet)
  | none =>
    let linters := w.host.configure settings root
    (linters, { s with linters := s.linters.insert uri.text linters }.send
      (inactiveNotices linters))

/-- The message for what is to be published on a file, unless the file has no URI. -/
def publication? (document : String) (version : Int) (p : Publication) : Option Message :=
  (Uri.ofFilePath? p.1).map fun uri =>
    .publish uri p.2 (if p.1 = document then some version else none)

/-- The request for a pass over a document. -/
def requestOf (d : Document) (file root shadow : String) (settings : Settings)
    (trigger : Trigger) : PassRequest where
  file := file
  root := root
  shadow := shadow
  text := d.text
  trigger := trigger
  excluded := settings.excludeFromWorkspacePaths
  debug := settings.debug

/-- Takes in what a pass found: publishes it, keeps the version, and shows the errors. -/
def conclude (w : World) (s : Session) (d : Document) (outcome : Outcome) : Reaction :=
  let (ledger, publications) := s.ledger.reconcile w.visiting outcome
  { s with ledger, versions := s.versions.insert d.uri.text d.version }.send
    (publications.filterMap (publication? outcome.document d.version)
      ++ ((errorSummary? outcome.errors).map (Message.display .error)).toList)

/-- Runs linters over a document, and takes in what they find. -/
def perform (w : World) (s : Session) (d : Document) (request : PassRequest) (settings : Settings)
    (linters : List Linter) (forced : Bool) : Reaction :=
  let outcome := Pass.run linters request (w.runner request)
  (⟨s, [.passed ⟨d, forced, request, settings, linters, outcome⟩]⟩ : Reaction).andThen fun s =>
    s.conclude w d outcome

/-- Runs a pass over a document. Nothing is run if its unsaved text is needed and cannot be copied.
-/
def pass (w : World) (s : Session) (d : Document) (file : String) (settings : Settings)
    (trigger : Trigger) (forced : Bool) : Reaction :=
  let root := workspaceRoot s.folders file
  let (linters, ready) := s.lintersOf w d.uri settings root
  ready.andThen fun s =>
    match w.shadow? settings file d.text with
    | none => s.note (.declined d settings forced)
    | some shadow =>
      s.perform w d (requestOf d file root shadow settings trigger) settings linters forced

/-- Runs a pass over a document if it is open and a file. Unless it is forced, a version that had
its pass is left alone. -/
def validate (w : World) (s : Session) (uri : Uri) (trigger : Trigger) (forced : Bool) : Reaction :=
  match uri.filePath?, s.document? uri with
  | some file, some d =>
    let (settings, resolved) := s.settingsOf w uri
    resolved.andThen fun s =>
      if !forced && s.isCurrent uri d.version then s.note (.declined d settings forced)
      else s.pass w d file settings trigger forced
  | _, _ => s.quiet

/-- Runs a pass over some documents, one after the other. -/
def validateEach (w : World) (trigger : Trigger) (forced : Bool) (s : Session) : List Uri → Reaction
  | [] => s.quiet
  | uri :: rest =>
    (s.validate w uri trigger forced).andThen fun s => validateEach w trigger forced s rest

/-- The URIs of the open documents, in the order in which they are visited. -/
def visitedUris (w : World) (s : Session) : List Uri :=
  (s.documents.valuesIn w.visiting).map (·.uri)

/-- Runs a pass over all open documents. -/
def validateAll (w : World) (s : Session) (trigger : Trigger) (forced : Bool) : Reaction :=
  validateEach w trigger forced s (s.visitedUris w)

end Session

end LintRelay.Server
