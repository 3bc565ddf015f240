import LintRelay.Server.Form.Common

/-!
# Forms of requests

The requests that the server knows, with the forms of their parameters. All but the request for a
command are not offered; still, parameters that do not fit are refused before that is told.
-/

namespace LintRelay.Server.Form

/-- A request about a place in a document. -/
def atPlace (name : String) (entries : List Entry) (parts : List (List Entry)) : Form :=
  joint name entries (placeEntries :: progressEntries :: parts)

/-- A request about a document. -/
def aboutDocument (name : String) (entries : List Entry) : Form :=
  joint name (need "textDocument" document :: entries) [progressEntries, partialEntries]

/-- A request for the places to which a name leads. -/
def destination : Form := atPlace "GotoDefinitionParams" [] [partialEntries]

/-- The fields of a node of a hierarchy. -/
def nodeEntries (tags : Form) : List Entry :=
  [need "name" text, need "kind" int32, may "tags" tags, may "detail" text, need "uri" uri,
    need "range" range, need "selectionRange" range, may "data" any]

/-- A request about a function among those that call each other. -/
def calls (name : String) : Form :=
  joint name [need "item" (record "CallHierarchyItem" (nodeEntries (list int32)))]
    [progressEntries, partialEntries]

/-- A request about a type among those that extend each other. -/
def extensions (name : String) : Form :=
  joint name [need "item" (record "TypeHierarchyItem" (nodeEntries int32))]
    [progressEntries, partialEntries]

/-- How a text is to be laid out. -/
def layout : Form :=
  openRecord "FormattingOptions"
    [need "tabSize" word32, need "insertSpaces" flag, may "trimTrailingWhitespace" flag,
      may "insertFinalNewline" flag, may "trimFinalNewlines" flag]
    (either "FormattingProperty" [flag, int32, text])

/-- Two numbers. -/
def numberPair : Form := fun held json =>
  match json with
  | .array [_, _] => list word32 held json
  | _ => .error (.kind json "an array of length 2")

/-- The help with a call that is shown. -/
def signatureHelp : Form :=
  record "SignatureHelp"
    [need "signatures" (list (record "SignatureInformation"
        [need "label" text, may "documentation" (documentation "Documentation"),
          may "parameters" (list (record "ParameterInformation"
            [need "label" (either "ParameterLabel" [text, numberPair]),
              may "documentation" (documentation "Documentation")])),
          may "activeParameter" word32])),
      may "activeSignature" word32, may "activeParameter" word32]

/-- A completion. -/
def completion : Form :=
  record "CompletionItem"
    [need "label" text,
      may "labelDetails" (record "CompletionItemLabelDetails"
        [may "detail" text, may "description" text]),
      may "kind" int32, may "detail" text, may "documentation" (documentation "Documentation"),
      may "deprecated" flag, may "preselect" flag, may "sortText" text, may "filterText" text,
      may "insertText" text, may "insertTextFormat" int32, may "insertTextMode" int32,
      may "textEdit" (either "CompletionTextEdit"
        [edit, record "InsertReplaceEdit"
          [need "newText" text, need "insert" range, need "replace" range]]),
      may "additionalTextEdits" (list edit), may "command" command,
      may "commitCharacters" (list text), may "data" any, may "tags" (list int32)]

/-- An action on code. -/
def action : Form :=
  record "CodeAction"
    [need "title" text, may "kind" text, may "diagnostics" (list diagnostic),
      may "edit" workspaceEdit, may "command" command, may "isPreferred" flag,
      may "disabled" (record "CodeActionDisabled" [need "reason" text]), may "data" any]

/-- A hint in a text. -/
def hint : Form :=
  record "InlayHint"
    [need "position" position,
      need "label" (either "InlayHintLabel"
        [text, list (record "InlayHintLabelPart"
          [need "value" text, may "tooltip" (documentation "InlayHintLabelPartTooltip"),
            may "location" location, may "command" command])]),
      may "kind" int32, may "textEdits" (list edit),
      may "tooltip" (documentation "InlayHintTooltip"),
      may "paddingLeft" flag, may "paddingRight" flag, may "data" any]

/-- A symbol of a workspace. -/
def symbol : Form :=
  record "WorkspaceSymbol"
    [need "name" text, need "kind" int32, may "tags" (list int32), may "containerName" text,
      need "location" (either "OneOf" [location, record "WorkspaceLocation" [need "uri" uri]]),
      may "data" any]

/-- A request about files. -/
def files (name file : String) (entries : List Entry) : Form :=
  record name [need "files" (list (record file entries))]

/-- A request for a command. -/
def commandRequest : Form :=
  joint "ExecuteCommandParams"
    [need "command" text, ⟨"arguments", list any, .filled (.array [])⟩] [progressEntries]

/-- The requests that are not offered. -/
def otherRequests : List (String × Form) :=
  [("textDocument/willSaveWaitUntil", record "WillSaveTextDocumentParams"
      [need "textDocument" document, need "reason" int32]),
    ("textDocument/declaration", destination),
    ("textDocument/definition", destination),
    ("textDocument/typeDefinition", destination),
    ("textDocument/implementation", destination),
    ("textDocument/references", atPlace "ReferenceParams"
      [need "context" (record "ReferenceContext" [need "includeDeclaration" flag])]
      [partialEntries]),
    ("textDocument/prepareCallHierarchy", atPlace "CallHierarchyPrepareParams" [] []),
    ("callHierarchy/incomingCalls", calls "CallHierarchyIncomingCallsParams"),
    ("callHierarchy/outgoingCalls", calls "CallHierarchyOutgoingCallsParams"),
    ("textDocument/prepareTypeHierarchy", atPlace "TypeHierarchyPrepareParams" [] []),
    ("typeHierarchy/supertypes", extensions "TypeHierarchySupertypesParams"),
    ("typeHierarchy/subtypes", extensions "TypeHierarchySubtypesParams"),
    ("textDocument/documentHighlight", atPlace "DocumentHighlightParams" [] [partialEntries]),
    ("textDocument/documentLink", aboutDocument "DocumentLinkParams" []),
    ("documentLink/resolve", record "DocumentLink"
      [need "range" range, may "target" uri, may "tooltip" text, may "data" any]),
    ("textDocument/hover", atPlace "HoverParams" [] []),
    ("textDocument/codeLens", aboutDocument "CodeLensParams" []),
    ("codeLens/resolve", record "CodeLens"
      [need "range" range, may "command" command, may "data" any]),
    ("textDocument/foldingRange", aboutDocument "FoldingRangeParams" []),
    ("textDocument/selectionRange", aboutDocument "SelectionRangeParams"
      [need "positions" (list position)]),
    ("textDocument/documentSymbol", aboutDocument "DocumentSymbolParams" []),
    ("textDocument/semanticTokens/full", aboutDocument "SemanticTokensParams" []),
    ("textDocument/semanticTokens/full/delta", aboutDocument "SemanticTokensDeltaParams"
      [need "previousResultId" text]),
    ("textDocument/semanticTokens/range", aboutDocument "SemanticTokensRangeParams"
      [need "range" range]),
    ("textDocument/inlineValue", joint "InlineValueParams"
      [need "textDocument" document, need "range" range,
        need "context" (record "InlineValueContext"
          [need "frameId" int32, need "stoppedLocation" range])]
      [progressEntries]),
    ("textDocument/inlayHint", joint "InlayHintParams"
      [need "textDocument" document, need "range" range] [progressEntries]),
    ("inlayHint/resolve", hint),
    ("textDocument/moniker", atPlace "MonikerParams" [] [partialEntries]),
    ("textDocument/completion", atPlace "CompletionParams"
      [may "context" (record "CompletionContext"
        [need "triggerKind" int32, may "triggerCharacter" text])]
      [partialEntries]),
    ("completionItem/resolve", completion),
    ("textDocument/diagnostic", aboutDocument "DocumentDiagnosticParams"
      [may "identifier" text, may "previousResultId" text]),
    ("workspace/diagnostic", joint "WorkspaceDiagnosticParams"
      [may "identifier" text,
        need "previousResultIds" (list (record "PreviousResultId"
          [need "uri" uri, need "value" text]))]
      [progressEntries, partialEntries]),
    ("textDocument/signatureHelp", atPlace "SignatureHelpParams"
      [may "context" (record "SignatureHelpContext"
        [need "triggerKind" int32, may "triggerCharacter" text, need "isRetrigger" flag,
          may "activeSignatureHelp" signatureHelp])] []),
    ("textDocument/codeAction", aboutDocument "CodeActionParams"
      [need "range" range,
        need "context" (record "CodeActionContext"
          [need "diagnostics" (list diagnostic), may "only" (list text),
            may "triggerKind" int32])]),
    ("codeAction/resolve", action),
    ("textDocument/documentColor", aboutDocument "DocumentColorParams" []),
    ("textDocument/colorPresentation", aboutDocument "ColorPresentationParams"
      [need "color" (record "Color"
          [need "red" real, need "green" real, need "blue" real, need "alpha" real]),
        need "range" range]),
    ("textDocument/formatting", joint "DocumentFormattingParams"
      [need "textDocument" document, need "options" layout] [progressEntries]),
    ("textDocument/rangeFormatting", joint "DocumentRangeFormattingParams"
      [need "textDocument" document, need "range" range, need "options" layout]
      [progressEntries]),
    ("textDocument/onTypeFormatting", joint "DocumentOnTypeFormattingParams"
      [need "ch" text, need "options" layout] [placeEntries]),
    ("textDocument/rename", atPlace "RenameParams" [need "newName" text] []),
    ("textDocument/prepareRename", record "TextDocumentPositionParams" placeEntries),
    ("textDocument/linkedEditingRange", atPlace "LinkedEditingRangeParams" [] []),
    ("workspace/symbol", joint "WorkspaceSymbolParams" [need "query" text]
      [partialEntries, progressEntries]),
    ("workspaceSymbol/resolve", symbol),
    ("workspace/willCreateFiles", files "CreateFilesParams" "FileCreate" [need "uri" text]),
    ("workspace/willRenameFiles", files "RenameFilesParams" "FileRename"
      [need "oldUri" text, need "newUri" text]),
    ("workspace/willDeleteFiles", files "DeleteFilesParams" "FileDelete" [need "uri" text])]

end LintRelay.Server.Form
