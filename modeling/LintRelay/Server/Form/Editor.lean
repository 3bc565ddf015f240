import LintRelay.Server.Form.Common

/-!
# The form of an introduction

When the editor starts the server it introduces itself and tells what it can do.
-/

namespace LintRelay.Server.Form

/-- Fields that are truth values and may be left out. -/
def flags (names : List String) : List Entry := names.map (may · flag)

/-- Whether methods can be added later. -/
def later : Form := record "DynamicRegistrationClientCapabilities" (flags ["dynamicRegistration"])

/-- Whether the editor takes a request to ask again. -/
def refresh (name : String) : Form := record name (flags ["refreshSupport"])

/-- The properties that can be given later. -/
def resolvable (name : String) : Form := record name [need "properties" (list text)]

/-- The tags that the editor knows. It may also tell only whether it knows any. -/
def tags : Form := fun _ json =>
  match json with
  | .bool _ => .ok .null
  | _ => optional (record "TagSupport" [need "valueSet" (list int32)]) false json

/-- The kinds of symbols that the editor knows. -/
def symbolKinds : Form := record "SymbolKindCapability" [may "valueSet" (list int32)]

/-! ## Workspaces -/

/-- What the editor can do with changes of a workspace. -/
def workspaceEditAbilities : Form :=
  record "WorkspaceEditClientCapabilities"
    [may "documentChanges" flag,
      may "resourceOperations" (list (choice ["create", "rename", "delete"])),
      may "failureHandling" (choice ["abort", "transactional", "textOnlyTransactional", "undo"]),
      may "normalizesLineEndings" flag,
      may "changeAnnotationSupport" (record "ChangeAnnotationWorkspaceEditClientCapabilities"
        (flags ["groupsOnLabel"]))]

/-- What the editor can do with a workspace. -/
def workspaceAbilities : Form :=
  record "WorkspaceClientCapabilities"
    [may "applyEdit" flag,
      may "workspaceEdit" workspaceEditAbilities,
      may "didChangeConfiguration" later,
      may "didChangeWatchedFiles" (record "DidChangeWatchedFilesClientCapabilities"
        (flags ["dynamicRegistration", "relativePatternSupport"])),
      may "symbol" (record "WorkspaceSymbolClientCapabilities"
        [may "dynamicRegistration" flag, may "symbolKind" symbolKinds, mayEnd "tagSupport" tags,
          may "resolveSupport" (resolvable "WorkspaceSymbolResolveSupportCapability")]),
      may "executeCommand" later,
      may "workspaceFolders" flag,
      may "configuration" flag,
      may "semanticTokens" (refresh "SemanticTokensWorkspaceClientCapabilities"),
      may "codeLens" (refresh "CodeLensWorkspaceClientCapabilities"),
      may "fileOperations" (record "WorkspaceFileOperationsClientCapabilities"
        (flags ["dynamicRegistration", "didCreate", "willCreate", "didRename", "willRename",
          "didDelete", "willDelete"])),
      may "inlineValue" (refresh "InlineValueWorkspaceClientCapabilities"),
      may "inlayHint" (refresh "InlayHintWorkspaceClientCapabilities"),
      may "diagnostic" (refresh "DiagnosticWorkspaceClientCapabilities")]

/-! ## Documents -/

/-- What the editor can do with completions. -/
def completionAbilities : Form :=
  record "CompletionClientCapabilities"
    [may "dynamicRegistration" flag,
      may "completionItem" (record "CompletionItemCapability"
        [may "snippetSupport" flag, may "commitCharactersSupport" flag,
          may "documentationFormat" (list markupKind), may "deprecatedSupport" flag,
          may "preselectSupport" flag, mayEnd "tagSupport" tags, may "insertReplaceSupport" flag,
          may "resolveSupport" (resolvable "CompletionItemCapabilityResolveSupport"),
          may "insertTextModeSupport" (record "InsertTextModeSupport"
            [need "valueSet" (list int32)]),
          may "labelDetailsSupport" flag]),
      may "completionItemKind" (record "CompletionItemKindCapability"
        [may "valueSet" (list int32)]),
      may "contextSupport" flag,
      may "insertTextMode" int32,
      may "completionList" (record "CompletionListCapability" [may "itemDefaults" (list text)])]

/-- What the editor can do with signatures. -/
def signatureAbilities : Form :=
  record "SignatureHelpClientCapabilities"
    [may "dynamicRegistration" flag,
      may "signatureInformation" (record "SignatureInformationSettings"
        [may "documentationFormat" (list markupKind),
          may "parameterInformation" (record "ParameterInformationSettings"
            (flags ["labelOffsetSupport"])),
          may "activeParameterSupport" flag]),
      may "contextSupport" flag]

/-- What the editor can do with actions on code. -/
def actionAbilities : Form :=
  record "CodeActionClientCapabilities"
    [may "dynamicRegistration" flag,
      may "codeActionLiteralSupport" (record "CodeActionLiteralSupport"
        [need "codeActionKind" (record "CodeActionKindLiteralSupport"
          [need "valueSet" (list text)])]),
      may "isPreferredSupport" flag, may "disabledSupport" flag, may "dataSupport" flag,
      may "resolveSupport" (resolvable "CodeActionCapabilityResolveSupport"),
      may "honorsChangeAnnotations" flag]

/-- What the editor can do with tokens. -/
def tokenAbilities : Form :=
  record "SemanticTokensClientCapabilities"
    [may "dynamicRegistration" flag,
      need "requests" (record "SemanticTokensClientCapabilitiesRequests"
        [may "range" flag,
          may "full" (either "SemanticTokensFullOptions"
            [flag, joint "SemanticTokensFullOptions" (flags ["delta"]) []])]),
      need "tokenTypes" (list text), need "tokenModifiers" (list text), need "formats" (list text),
      may "overlappingTokenSupport" flag, may "multilineTokenSupport" flag,
      may "serverCancelSupport" flag, may "augmentsSyntaxTokens" flag]

/-- Whether the editor takes links to places. -/
def links : Form := record "GotoCapability" (flags ["dynamicRegistration", "linkSupport"])

/-- What the editor can do with a document. -/
def documentAbilities : Form :=
  record "TextDocumentClientCapabilities"
    [may "synchronization" (record "TextDocumentSyncClientCapabilities"
        (flags ["dynamicRegistration", "willSave", "willSaveWaitUntil", "didSave"])),
      may "completion" completionAbilities,
      may "hover" (record "HoverClientCapabilities"
        [may "dynamicRegistration" flag, may "contentFormat" (list markupKind)]),
      may "signatureHelp" signatureAbilities,
      may "references" later,
      may "documentHighlight" later,
      may "documentSymbol" (record "DocumentSymbolClientCapabilities"
        [may "dynamicRegistration" flag, may "symbolKind" symbolKinds,
          may "hierarchicalDocumentSymbolSupport" flag, mayEnd "tagSupport" tags]),
      may "formatting" later,
      may "rangeFormatting" later,
      may "onTypeFormatting" later,
      may "declaration" links,
      may "definition" links,
      may "typeDefinition" links,
      may "implementation" links,
      may "codeAction" actionAbilities,
      may "codeLens" later,
      may "documentLink" (record "DocumentLinkClientCapabilities"
        (flags ["dynamicRegistration", "tooltipSupport"])),
      may "colorProvider" later,
      may "rename" (record "RenameClientCapabilities"
        [may "dynamicRegistration" flag, may "prepareSupport" flag,
          may "prepareSupportDefaultBehavior" int32, may "honorsChangeAnnotations" flag]),
      may "publishDiagnostics" (record "PublishDiagnosticsClientCapabilities"
        [may "relatedInformation" flag, mayEnd "tagSupport" tags, may "versionSupport" flag,
          may "codeDescriptionSupport" flag, may "dataSupport" flag]),
      may "foldingRange" (record "FoldingRangeClientCapabilities"
        [may "dynamicRegistration" flag, may "rangeLimit" word32, may "lineFoldingOnly" flag,
          may "foldingRangeKind" (record "FoldingRangeKindCapability"
            [may "valueSet" (list (choice ["comment", "imports", "region"]))]),
          may "foldingRange" (record "FoldingRangeCapability" (flags ["collapsedText"]))]),
      may "selectionRange" (record "SelectionRangeClientCapabilities"
        (flags ["dynamicRegistration"])),
      may "linkedEditingRange" later,
      may "callHierarchy" later,
      may "semanticTokens" tokenAbilities,
      may "moniker" later,
      may "typeHierarchy" later,
      may "inlineValue" later,
      may "inlayHint" (record "InlayHintClientCapabilities"
        [may "dynamicRegistration" flag,
          may "resolveSupport" (resolvable "InlayHintResolveClientCapabilities")]),
      may "diagnostic" (record "DiagnosticClientCapabilities"
        (flags ["dynamicRegistration", "relatedDocumentSupport"]))]

/-! ## Windows and the rest -/

/-- What the editor can do with its window. -/
def windowAbilities : Form :=
  record "WindowClientCapabilities"
    [may "workDoneProgress" flag,
      may "showMessage" (record "ShowMessageRequestClientCapabilities"
        [may "messageActionItem" (record "MessageActionItemCapabilities"
          (flags ["additionalPropertiesSupport"]))]),
      may "showDocument" (record "ShowDocumentClientCapabilities" [need "support" flag])]

/-- What the editor can do in general. -/
def generalAbilities : Form :=
  record "GeneralClientCapabilities"
    [may "regularExpressions" (record "RegularExpressionsClientCapabilities"
        [need "engine" text, may "version" text]),
      may "markdown" (record "MarkdownClientCapabilities"
        [need "parser" text, may "version" text, may "allowedTags" (list text)]),
      may "staleRequestSupport" (record "StaleRequestSupportClientCapabilities"
        [need "cancel" flag, need "retryOnContentModified" (list text)]),
      may "positionEncodings" (list text)]

/-- What the editor can do. -/
def abilities : Form :=
  record "ClientCapabilities"
    [may "workspace" workspaceAbilities, may "textDocument" documentAbilities,
      may "window" windowAbilities, may "general" generalAbilities, may "experimental" any]

/-- A folder of the workspace. -/
def folder : Form := record "WorkspaceFolder" [need "uri" uri, need "name" text]

/-- The introduction of the editor. -/
def introduction : Form :=
  record "InitializeParams"
    [may "processId" word32, may "rootPath" text, mayEnd "rootUri" uri,
      may "initializationOptions" any, need "capabilities" abilities,
      mayEnd "trace" (choice ["off", "messages", "verbose"]),
      may "workspaceFolders" (list folder),
      may "clientInfo" (record "ClientInfo" [need "name" text, may "version" text]),
      may "locale" text]

end LintRelay.Server.Form
