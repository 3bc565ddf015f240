import LintRelay.Server.Form

/-!
# Forms that methods share
-/

namespace LintRelay.Server.Form

/-! ## Places and documents -/

/-- A place in a text. -/
def position : Form := record "Position" [need "line" word32, need "character" word32]

/-- A range of a text. -/
def range : Form := record "Range" [need "start" position, need "end" position]

/-- A range of a document. -/
def location : Form := record "Location" [need "uri" uri, need "range" range]

/-- The name of a document. -/
def document : Form := record "TextDocumentIdentifier" [need "uri" uri]

/-- The name of a document and its version. -/
def documentVersion : Form :=
  record "VersionedTextDocumentIdentifier" [need "uri" uri, need "version" int32]

/-- A document with its text. -/
def documentText : Form :=
  record "TextDocumentItem"
    [need "uri" uri, need "languageId" text, need "version" int32, need "text" text]

/-- The fields of a place in a document. -/
def placeEntries : List Entry := [need "textDocument" document, need "position" position]

/-! ## Progress -/

/-- A number or a text. -/
def numberOrText : Form := either "NumberOrString" [int32, text]

/-- The field by which the editor follows the progress of a request. -/
def progressEntries : List Entry := [may "workDoneToken" numberOrText]

/-- The field by which the editor takes results in parts. -/
def partialEntries : List Entry := [may "partialResultToken" numberOrText]

/-! ## Texts and edits -/

/-- How a text is written. -/
def markupKind : Form := choice ["plaintext", "markdown"]

/-- A text with the way it is written. -/
def markup : Form := record "MarkupContent" [need "kind" markupKind, need "value" text]

/-- A text, perhaps with the way it is written. -/
def documentation (name : String) : Form := either name [text, markup]

/-- A command. -/
def command : Form :=
  record "Command" [need "title" text, need "command" text, may "arguments" (list any)]

/-- The fields of a change of a text. -/
def editEntries : List Entry := [need "range" range, need "newText" text]

/-- A change of a text. -/
def edit : Form := record "TextEdit" editEntries

/-- A change of a text that refers to an annotation. -/
def annotatedEdit : Form := joint "AnnotatedTextEdit" [need "annotationId" text] [editEntries]

/-- Changes of a document. -/
def documentEdit : Form :=
  record "TextDocumentEdit"
    [need "textDocument" (record "OptionalVersionedTextDocumentIdentifier"
        [need "uri" uri, may "version" int32]),
      need "edits" (list (either "OneOf" [edit, annotatedEdit]))]

/-- The fields of a change of a file, by the kind of the change. -/
def fileOperations : List (String × List Entry) :=
  [("create",
    [need "uri" uri,
      may "options" (record "CreateFileOptions" [may "overwrite" flag, may "ignoreIfExists" flag]),
      may "annotationId" text]),
    ("rename",
      [need "oldUri" uri, need "newUri" uri,
        may "options" (record "RenameFileOptions"
          [may "overwrite" flag, may "ignoreIfExists" flag]),
        may "annotationId" text]),
    ("delete",
      [need "uri" uri,
        may "options" (record "DeleteFileOptions"
          [may "recursive" flag, may "ignoreIfNotExists" flag, may "annotationId" text])])]

/-- A change of a file. -/
def fileOperation : Form := fun _ json =>
  match (json.field? "kind").bind Json.text? with
  | some kind =>
    match fileOperations.lookup kind with
    | some entries => joint "ResourceOp" entries [] true json
    | none => .error (.word kind (fileOperations.map Prod.fst))
  | none => .error (.field "kind")

/-- Changes of a workspace. -/
def workspaceEdit : Form :=
  record "WorkspaceEdit"
    [mayEnd "changes" (table (list edit)),
      may "documentChanges" (either "DocumentChanges"
        [list documentEdit, list (either "DocumentChangeOperation" [fileOperation, documentEdit])]),
      may "changeAnnotations" (table (record "ChangeAnnotation"
        [need "label" text, may "needsConfirmation" flag, may "description" text]))]

/-! ## Diagnostics -/

/-- A diagnostic. -/
def diagnostic : Form :=
  record "Diagnostic"
    [need "range" range, may "severity" int32, may "code" numberOrText,
      may "codeDescription" (record "CodeDescription" [need "href" uri]),
      may "source" text, need "message" text,
      may "relatedInformation" (list (record "DiagnosticRelatedInformation"
        [need "location" location, need "message" text])),
      may "tags" (list int32), may "data" any]

end LintRelay.Server.Form
