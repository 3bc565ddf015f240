import LintRelay.Server.Form.Editor

/-!
# Notices of the editor

What the editor tells the server, read from a method and its parameters. Parameters that do not have
the form of their method give no notice.
-/

namespace LintRelay.Server

/-! ## Forms -/

namespace Form

/-- A change of a document: a text, and perhaps the range that it replaces. -/
def change : Form :=
  record "TextDocumentContentChangeEvent"
    [may "range" range, may "rangeLength" word32, need "text" text]

/-- A change of a file on disk. -/
def fileChange : Form := record "FileEvent" [need "uri" uri, need "type" int32]

/-- The notices that the server acts on. -/
def notices : List (String × Form) :=
  [("initialized", record "InitializedParams" []),
    ("textDocument/didOpen", record "DidOpenTextDocumentParams"
      [need "textDocument" documentText]),
    ("textDocument/didChange", record "DidChangeTextDocumentParams"
      [need "textDocument" documentVersion, need "contentChanges" (list change)]),
    ("textDocument/didSave", record "DidSaveTextDocumentParams"
      [need "textDocument" document, may "text" text]),
    ("textDocument/didClose", record "DidCloseTextDocumentParams"
      [need "textDocument" document]),
    ("workspace/didChangeConfiguration", record "DidChangeConfigurationParams"
      [need "settings" any]),
    ("workspace/didChangeWatchedFiles", record "DidChangeWatchedFilesParams"
      [need "changes" (list fileChange)]),
    ("onBuild", record "OnBuildParams"
      [mayEnd "document" uri, mayEnd "taskName" text, mayEnd "taskSource" text,
        mayEnd "isBackground" flag])]

/-- Notices that the server knows, and on which it does nothing. -/
def idleNotices : List String :=
  ["textDocument/willSave", "workspace/didChangeWorkspaceFolders", "workspace/didCreateFiles",
    "workspace/didRenameFiles", "workspace/didDeleteFiles"]

end Form

/-! ## Notices -/

/-- Something that the editor tells. -/
inductive Notice where
  /-- The editor is ready. -/
  | ready
  /-- A document was opened. -/
  | opened (uri : Uri) (text : String) (version : Int)
  /-- A document was changed, to each of the texts in turn. -/
  | changed (uri : Uri) (version : Int) (texts : List String)
  /-- A document was saved, perhaps with its text. -/
  | saved (uri : Uri) (text : Option String)
  /-- A document was closed. -/
  | closed (uri : Uri)
  /-- Settings were changed. -/
  | settingsChanged (settings : Json)
  /-- Files were changed on disk. -/
  | filesChanged (uris : List Uri)
  /-- A build has ended, perhaps with the document that it is about. -/
  | built (document : Option Uri)

/-- What the editor tells when it starts the server. -/
structure Introduction where
  /-- The folders of the workspace. -/
  folders : List Uri
  /-- The root of the workspace. -/
  root : Option Uri
  /-- Whether the editor answers requests for settings. -/
  answersSettings : Bool
  /-- Settings. -/
  options : Option Json

/-! ## Reading parameters -/

/-- The value of a field that is not null. -/
def valueAt? (json : Json) (name : String) : Option Json :=
  match json.field? name with
  | none | some .null => none
  | some value => some value

/-- The items of an array. -/
def itemsOf : Json → List Json
  | .array items => items
  | _ => []

/-- A URI. -/
def uri? (json : Json) : Option Uri := json.text?.bind fun text => (Uri.ofText text).toOption

/-- The text of a field. -/
def textAt? (json : Json) (name : String) : Option String := (valueAt? json name).bind Json.text?

/-- The URI in a field. -/
def uriAt? (json : Json) (name : String) : Option Uri := (valueAt? json name).bind uri?

/-- The integer in a field. -/
def integerAt? (json : Json) (name : String) : Option Int :=
  match valueAt? json name with
  | some (.integer n) => some n
  | _ => none

/-- The items in a field. -/
def itemsAt (json : Json) (name : String) : List Json := ((valueAt? json name).map itemsOf).getD []

/-! ## Methods -/

/-- The notice of a method and its parameters, which have the form of the method. -/
def Notice.ofParams? (method : String) (params : Json) : Option Notice := do
  match method with
  | "initialized" => return .ready
  | "textDocument/didOpen" =>
    let d ← valueAt? params "textDocument"
    return .opened (← uriAt? d "uri") (← textAt? d "text") (← integerAt? d "version")
  | "textDocument/didChange" =>
    let d ← valueAt? params "textDocument"
    return .changed (← uriAt? d "uri") (← integerAt? d "version")
      ((itemsAt params "contentChanges").filterMap (textAt? · "text"))
  | "textDocument/didSave" =>
    return .saved (← uriAt? (← valueAt? params "textDocument") "uri") (textAt? params "text")
  | "textDocument/didClose" => return .closed (← uriAt? (← valueAt? params "textDocument") "uri")
  | "workspace/didChangeConfiguration" => return .settingsChanged (← params.field? "settings")
  | "workspace/didChangeWatchedFiles" =>
    return .filesChanged ((itemsAt params "changes").filterMap (uriAt? · "uri"))
  | "onBuild" => return .built (uriAt? params "document")
  | _ => none

/-- The notice of a method and its parameters. -/
def Notice.read? (method : String) (params : Option Json) : Option Notice := do
  let form ← Form.notices.lookup method
  Notice.ofParams? method (← (form false (← params)).toOption)

/-- The introduction of the editor. -/
def Introduction.read (params : Json) : Except Mismatch Introduction := do
  let params ← Form.introduction false params
  let workspace := (valueAt? params "capabilities").bind (valueAt? · "workspace")
  return {
    folders := (itemsAt params "workspaceFolders").filterMap (uriAt? · "uri")
    root := uriAt? params "rootUri"
    answersSettings := match workspace.bind (valueAt? · "configuration") with
      | some (.bool b) => b
      | _ => false
    options := valueAt? params "initializationOptions" }

end LintRelay.Server
