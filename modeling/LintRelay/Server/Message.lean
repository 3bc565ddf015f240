import LintRelay.Finding
import LintRelay.Settings.Written
import LintRelay.Uri

/-!
# Messages to the editor

What the server sends: findings to show, notices, and two requests, one for the settings of a
document and one to be told when settings change.
-/

namespace LintRelay.Server

/-- How urgent a notice is. -/
inductive Urgency where
  | error
  | warning
  | info
deriving DecidableEq, Repr

/-- The number of an urgency. -/
def Urgency.number : Urgency → Nat
  | .error => 1
  | .warning => 2
  | .info => 3

/-- A message to the editor. -/
inductive Message where
  /-- The findings of a file replace those sent before; `version` is that of the text they are
  about, if it is an open document. -/
  | publish (uri : Uri) (findings : List Finding) (version : Option Int)
  /-- A notice for the user. -/
  | display (urgency : Urgency) (text : String)
  /-- A notice for the log. -/
  | log (urgency : Urgency) (text : String)
  /-- A request for the settings of a document. -/
  | askSettings (uri : Uri)
  /-- A request to be told when settings change. -/
  | watchSettings

namespace Message

/-- The method of a message. -/
def method : Message → String
  | .publish .. => "textDocument/publishDiagnostics"
  | .display .. => "window/showMessage"
  | .log .. => "window/logMessage"
  | .askSettings _ => "workspace/configuration"
  | .watchSettings => "client/registerCapability"

/-- A finding as the editor takes it, with the number of its severity. -/
def findingJson (f : Finding) : Json := f.toJsonWith fun s => .nat s.number

/-- The parameters of a message. -/
def params : Message → Json
  | .publish uri findings version =>
    .object ([("diagnostics", .array (findings.map findingJson)), ("uri", .string uri.text)]
      ++ (version.map fun v => ("version", Json.integer v)).toList)
  | .display urgency text | .log urgency text =>
    .object [("message", .string text), ("type", .nat urgency.number)]
  | .askSettings uri =>
    .object [("items", .array [.object
      [("scopeUri", .string uri.text), ("section", .string sectionName)]])]
  | .watchSettings =>
    .object [("registrations", .array [.object
      [("id", .string "flylint-configuration"),
        ("method", .string "workspace/didChangeConfiguration")]])]

end Message

end LintRelay.Server
