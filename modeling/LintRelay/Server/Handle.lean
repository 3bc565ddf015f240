import LintRelay.Server.Notice
import LintRelay.Server.Session

/-!
# Handling notices

How a session goes on when the editor tells something, and when time passes. A document is analyzed
when it is opened or saved, and in the settings `onType` also when it was left alone for a while
after a change. Changes to settings analyze all documents anew.
-/

namespace LintRelay.Server

/-- How long a document has to be left alone, in milliseconds. -/
def quietPeriod : Nat := 1500

/-- The editor's own file of compiler properties. -/
def propertiesFile : String := "c_cpp_properties.json"

/-- Whether a URI names a settings file. -/
def isSettingsFile (uri : Uri) : Bool :=
  match uri.fileName? with
  | some name => Host.settingsFiles.contains name
  | none => false

/-- Whether a change to the named file makes what is known about documents obsolete. -/
def isWatched (uri : Uri) : Bool := isSettingsFile uri || uri.fileName? = some propertiesFile

/-- The settings in the settings file of a folder, if there is one that can be read. -/
def folderSettings? (host : Host) (folder : String) : Option Settings :=
  (host.settingsFile? folder).bind fun path => (host.readSettings path).toOption

namespace Session

/-- The session after the introduction of the editor. -/
def introduce (w : World) (s : Session) (i : Introduction) : Session :=
  let folders := i.folders.filterMap Uri.filePath?
  let folders := if folders = [] then (i.root.bind Uri.filePath?).toList else folders
  { s with
    folders
    asksEditor := i.answersSettings
    shared := match i.options with
      | some options => settingsFrom (some options)
      | none => (folders.head?.bind (folderSettings? w.host)).getD .initial }

/-- The editor is ready. -/
def ready (s : Session) : Reaction :=
  s.send ((if s.asksEditor then [.watchSettings] else [])
    ++ [.log .info "flylint LSP server initialized!"])

/-- A document was opened. -/
def opened (w : World) (s : Session) (d : Document) : Reaction :=
  (s.store d).andThen fun s => s.validate w d.uri .onSave false

/-- Lets a pass over a document wait. -/
def await (s : Session) (uri : Uri) (version : Int) : Session :=
  { s with waiting := s.waiting ++ [⟨s.now + quietPeriod, uri, version⟩] }

/-- A document was changed. The first of the texts is the whole new text. -/
def changed (w : World) (s : Session) (uri : Uri) (version : Int) (texts : List String) :
    Reaction :=
  match texts with
  | [] => s.quiet
  | text :: _ =>
    (s.store ⟨uri, text, version⟩).andThen fun s =>
      let (settings, resolved) := s.settingsOf w uri
      resolved.andThen fun s =>
        if settings.run = .onType then (s.await uri version).quiet else s.quiet

/-- Takes over the text with which an open document was saved. -/
def storeSaved (s : Session) (uri : Uri) (text : Option String) : Reaction :=
  match text, s.document? uri with
  | some text, some d => s.store { d with text }
  | _, _ => s.quiet

/-- A document was saved. A pass while typing saw other files as they were before, so that under
`onType` the pass is run whatever the version. -/
def saved (w : World) (s : Session) (uri : Uri) (text : Option String) : Reaction :=
  (s.storeSaved uri text).andThen fun s =>
    let (settings, resolved) := s.settingsOf w uri
    resolved.andThen fun s =>
      match settings.run with
      | .onSave => s.validate w uri .onSave false
      | .onType => s.validate w uri .onSave true
      | .onBuild => s.quiet

/-- Forgets what is kept about a document. -/
def evict (s : Session) (uri : Uri) : Session :=
  { s with
    documents := s.documents.erase uri.text
    settings := s.settings.erase uri.text
    linters := s.linters.erase uri.text
    versions := s.versions.erase uri.text }

/-- The message for what is left of the findings of a file when a document is closed, unless the
file has no URI or is that document. -/
def remainder? (uri : Uri) (p : Publication) : Option Message :=
  (Uri.ofFilePath? p.1).bind fun other =>
    if other = uri then none else some (.publish other p.2 none)

/-- A document was closed. Its own findings are taken back, and for other files what is left of
theirs is published. -/
def closed (w : World) (s : Session) (uri : Uri) : Reaction :=
  let s := s.evict uri
  let (ledger, publications) := match uri.filePath? with
    | some file => s.ledger.forget w.visiting (documentIdentity file)
    | none => (s.ledger, [])
  ({ s with ledger }.send
    (publications.filterMap (remainder? uri) ++ [Message.publish uri [] none])).andThen fun s =>
      ⟨s, [.closed uri]⟩

/-- Settings were changed. -/
def settingsChanged (w : World) (s : Session) (settings : Json) : Reaction :=
  (s.flush (if s.asksEditor then s.shared else settingsFrom (some settings))).andThen fun s =>
    s.validateAll w .onSave false

/-- Files were changed on disk. -/
def filesChanged (w : World) (s : Session) (uris : List Uri) : Reaction :=
  if uris.any isWatched then
    let shared :=
      if uris.any isSettingsFile && !s.asksEditor then
        (s.folders.head?.bind (folderSettings? w.host)).getD s.shared
      else s.shared
    (s.flush shared).andThen fun s => s.validateAll w .onSave true
  else s.quiet

/-- A build has ended. The settings of the document that it is about, or else those of the
workspace, decide whether documents are analyzed. -/
def built (w : World) (s : Session) (document : Option Uri) : Reaction :=
  let (settings, resolved) := match document with
    | some uri => s.settingsOf w uri
    | none => (s.shared, s.quiet)
  resolved.andThen fun s =>
    if settings.run = .onBuild then s.validateAll w .onBuild true else s.quiet

/-- Handles what the editor tells. -/
def handle (w : World) (s : Session) : Notice → Reaction
  | .ready => s.ready
  | .opened uri text version => s.opened w ⟨uri, text, version⟩
  | .changed uri version texts => s.changed w uri version texts
  | .saved uri text => s.saved w uri text
  | .closed uri => s.closed w uri
  | .settingsChanged settings => s.settingsChanged w settings
  | .filesChanged uris => s.filesChanged w uris
  | .built document => s.built w document

/-! ## Time -/

/-- Runs a pass that has waited, unless the document was closed or changed in the meantime. -/
def wake (w : World) (s : Session) (p : Waiting) : Reaction :=
  match s.document? p.uri with
  | some d => if d.version = p.version then s.validate w p.uri .onType false else s.quiet
  | none => s.quiet

/-- Runs passes that have waited, one after the other. -/
def wakeEach (w : World) (s : Session) : List Waiting → Reaction
  | [] => s.quiet
  | p :: rest => (s.wake w p).andThen fun s => wakeEach w s rest

/-- The passes that become due when some time passes. -/
def due (s : Session) (milliseconds : Nat) : List Waiting :=
  s.waiting.takeWhile (·.due ≤ s.now + milliseconds)

/-- The session when some time has passed; what becomes due no longer waits. -/
def tick (s : Session) (milliseconds : Nat) : Session :=
  { s with
    now := s.now + milliseconds
    waiting := s.waiting.dropWhile (·.due ≤ s.now + milliseconds) }

/-- Lets time pass; what becomes due is run. -/
def advance (w : World) (s : Session) (milliseconds : Nat) : Reaction :=
  wakeEach w (s.tick milliseconds) (s.due milliseconds)

/-! ## Commands -/

/-- Why a command is not carried out. -/
inductive CommandError where
  /-- The first argument is no URI. -/
  | noDocument
  /-- There is no such command. -/
  | unknown (name : String)
deriving DecidableEq, Repr

/-- The text of a command error. -/
def CommandError.message : CommandError → String
  | .noDocument => "Expected a document URI argument"
  | .unknown name => "Unknown command: " ++ name

/-- Analyzes the document that is the argument. -/
def analyzeDocument : String := "c-cpp-flylint.analyzeActiveDocument"

/-- Analyzes all open documents. -/
def analyzeWorkspace : String := "c-cpp-flylint.analyzeWorkspace"

/-- Carries out a command. -/
def command (w : World) (s : Session) (name : String) (arguments : List Json) :
    Except CommandError Reaction :=
  if name = analyzeDocument then
    match arguments.head?.bind uri? with
    | some uri => .ok (s.validate w uri .onSave true)
    | none => .error .noDocument
  else if name = analyzeWorkspace then .ok (s.validateAll w .onSave true)
  else .error (.unknown name)

end Session

end LintRelay.Server
