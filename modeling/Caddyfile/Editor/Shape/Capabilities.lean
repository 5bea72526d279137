import Caddyfile.Editor.Shape.Document

/-!
# Shapes of what an editor can do

An editor begins a session by telling which parts of the protocol it understands. Nothing here
depends on what it says, but a session only begins if it says it well.
-/

namespace Caddyfile.Editor.Shape

def flag : Shape :=
  optional bool

def flags (title : String) (names : List String) : Shape :=
  record title (names.map fun name => (name, flag))

def dynamic : Shape :=
  optional (flags "DynamicRegistrationClientCapabilities" ["dynamicRegistration"])

def properties (title : String) : Shape :=
  optional (record title [("properties", list text)])

/-- The tags that are known. Some editors only say whether they know any. -/
def tagSupport : Shape where
  read
    | .null | .bool false => .ok .null
    | .bool true => .ok (.object [("valueSet", .array [])])
    | j => (record "TagSupport" [("valueSet", list signed)]).read j
  absent? := some .null
  mayEnd := true

def symbolKinds : Shape :=
  optional (record "SymbolKindCapability" [("valueSet", optional (list signed))])

/-! ## The workspace -/

def workspaceEditSupport : Shape :=
  record "WorkspaceEditClientCapabilities" [
    ("documentChanges", flag),
    ("resourceOperations", optional (list (word ["create", "rename", "delete"]))),
    ("failureHandling",
      optional (word ["abort", "transactional", "textOnlyTransactional", "undo"])),
    ("normalizesLineEndings", flag),
    ("changeAnnotationSupport", optional (flags
      "ChangeAnnotationWorkspaceEditClientCapabilities" ["groupsOnLabel"]))]

def workspaceSymbolSupport : Shape :=
  record "WorkspaceSymbolClientCapabilities" [
    ("dynamicRegistration", flag), ("symbolKind", symbolKinds), ("tagSupport", tagSupport),
    ("resolveSupport", properties "WorkspaceSymbolResolveSupportCapability")]

def fileOperationSupport : Shape :=
  flags "WorkspaceFileOperationsClientCapabilities" [
    "dynamicRegistration", "didCreate", "willCreate", "didRename", "willRename", "didDelete",
    "willDelete"]

def workspaceSupport : Shape :=
  record "WorkspaceClientCapabilities" [
    ("applyEdit", flag), ("workspaceEdit", optional workspaceEditSupport),
    ("didChangeConfiguration", dynamic),
    ("didChangeWatchedFiles", optional (flags "DidChangeWatchedFilesClientCapabilities"
      ["dynamicRegistration", "relativePatternSupport"])),
    ("symbol", optional workspaceSymbolSupport), ("executeCommand", dynamic),
    ("workspaceFolders", flag), ("configuration", flag),
    ("semanticTokens",
      optional (flags "SemanticTokensWorkspaceClientCapabilities" ["refreshSupport"])),
    ("codeLens", optional (flags "CodeLensWorkspaceClientCapabilities" ["refreshSupport"])),
    ("fileOperations", optional fileOperationSupport),
    ("inlineValue", optional (flags "InlineValueWorkspaceClientCapabilities" ["refreshSupport"])),
    ("inlayHint", optional (flags "InlayHintWorkspaceClientCapabilities" ["refreshSupport"])),
    ("diagnostic", optional (flags "DiagnosticWorkspaceClientCapabilities" ["refreshSupport"]))]

/-! ## Documents -/

def completionItemSupport : Shape :=
  record "CompletionItemCapability" [
    ("snippetSupport", flag), ("commitCharactersSupport", flag),
    ("documentationFormat", optional (list markupKind)), ("deprecatedSupport", flag),
    ("preselectSupport", flag), ("tagSupport", tagSupport), ("insertReplaceSupport", flag),
    ("resolveSupport", properties "CompletionItemCapabilityResolveSupport"),
    ("insertTextModeSupport",
      optional (record "InsertTextModeSupport" [("valueSet", list signed)])),
    ("labelDetailsSupport", flag)]

def completionSupport : Shape :=
  record "CompletionClientCapabilities" [
    ("dynamicRegistration", flag), ("completionItem", optional completionItemSupport),
    ("completionItemKind", optional (record "CompletionItemKindCapability"
      [("valueSet", optional (list signed))])),
    ("contextSupport", flag), ("insertTextMode", optional signed),
    ("completionList", optional (record "CompletionListCapability"
      [("itemDefaults", optional (list text))]))]

def hoverSupport : Shape :=
  record "HoverClientCapabilities"
    [("dynamicRegistration", flag), ("contentFormat", optional (list markupKind))]

def signatureHelpSupport : Shape :=
  record "SignatureHelpClientCapabilities" [
    ("dynamicRegistration", flag),
    ("signatureInformation", optional (record "SignatureInformationSettings" [
      ("documentationFormat", optional (list markupKind)),
      ("parameterInformation",
        optional (flags "ParameterInformationSettings" ["labelOffsetSupport"])),
      ("activeParameterSupport", flag)])),
    ("contextSupport", flag)]

def documentSymbolSupport : Shape :=
  record "DocumentSymbolClientCapabilities" [
    ("dynamicRegistration", flag), ("symbolKind", symbolKinds),
    ("hierarchicalDocumentSymbolSupport", flag), ("tagSupport", tagSupport)]

def gotoSupport : Shape :=
  optional (flags "GotoCapability" ["dynamicRegistration", "linkSupport"])

def codeActionSupport : Shape :=
  record "CodeActionClientCapabilities" [
    ("dynamicRegistration", flag),
    ("codeActionLiteralSupport", optional (record "CodeActionLiteralSupport" [
      ("codeActionKind", record "CodeActionKindLiteralSupport" [("valueSet", list text)])])),
    ("isPreferredSupport", flag), ("disabledSupport", flag), ("dataSupport", flag),
    ("resolveSupport", properties "CodeActionCapabilityResolveSupport"),
    ("honorsChangeAnnotations", flag)]

def renameSupport : Shape :=
  record "RenameClientCapabilities" [
    ("dynamicRegistration", flag), ("prepareSupport", flag),
    ("prepareSupportDefaultBehavior", optional signed), ("honorsChangeAnnotations", flag)]

def publishSupport : Shape :=
  record "PublishDiagnosticsClientCapabilities" [
    ("relatedInformation", flag), ("tagSupport", tagSupport), ("versionSupport", flag),
    ("codeDescriptionSupport", flag), ("dataSupport", flag)]

def foldingSupport : Shape :=
  record "FoldingRangeClientCapabilities" [
    ("dynamicRegistration", flag), ("rangeLimit", optional unsigned), ("lineFoldingOnly", flag),
    ("foldingRangeKind", optional (record "FoldingRangeKindCapability"
      [("valueSet", optional (list (word ["comment", "imports", "region"])))])),
    ("foldingRange", optional (flags "FoldingRangeCapability" ["collapsedText"]))]

def semanticTokenSupport : Shape :=
  record "SemanticTokensClientCapabilities" [
    ("dynamicRegistration", flag),
    ("requests", record "SemanticTokensClientCapabilitiesRequests" [
      ("range", flag),
      ("full", optional (union "SemanticTokensFullOptions"
        [bool, flags "SemanticTokensFullOptions" ["delta"]]))]),
    ("tokenTypes", list text), ("tokenModifiers", list text), ("formats", list (word ["relative"])),
    ("overlappingTokenSupport", flag), ("multilineTokenSupport", flag),
    ("serverCancelSupport", flag), ("augmentsSyntaxTokens", flag)]

def documentSupport : Shape :=
  record "TextDocumentClientCapabilities" [
    ("synchronization", optional (flags "TextDocumentSyncClientCapabilities"
      ["dynamicRegistration", "willSave", "willSaveWaitUntil", "didSave"])),
    ("completion", optional completionSupport), ("hover", optional hoverSupport),
    ("signatureHelp", optional signatureHelpSupport), ("references", dynamic),
    ("documentHighlight", dynamic), ("documentSymbol", optional documentSymbolSupport),
    ("formatting", dynamic), ("rangeFormatting", dynamic), ("onTypeFormatting", dynamic),
    ("declaration", gotoSupport), ("definition", gotoSupport), ("typeDefinition", gotoSupport),
    ("implementation", gotoSupport), ("codeAction", optional codeActionSupport),
    ("codeLens", dynamic),
    ("documentLink", optional (flags "DocumentLinkClientCapabilities"
      ["dynamicRegistration", "tooltipSupport"])),
    ("colorProvider", dynamic), ("rename", optional renameSupport),
    ("publishDiagnostics", optional publishSupport), ("foldingRange", optional foldingSupport),
    ("selectionRange",
      optional (flags "SelectionRangeClientCapabilities" ["dynamicRegistration"])),
    ("linkedEditingRange", dynamic), ("callHierarchy", dynamic),
    ("semanticTokens", optional semanticTokenSupport), ("moniker", dynamic),
    ("typeHierarchy", dynamic), ("inlineValue", dynamic),
    ("inlayHint", optional (record "InlayHintClientCapabilities" [
      ("dynamicRegistration", flag),
      ("resolveSupport", properties "InlayHintResolveClientCapabilities")])),
    ("diagnostic", optional (flags "DiagnosticClientCapabilities"
      ["dynamicRegistration", "relatedDocumentSupport"]))]

/-! ## Everything else -/

def notebookSupport : Shape :=
  record "NotebookDocumentClientCapabilities" [
    ("synchronization", flags "NotebookDocumentSyncClientCapabilities"
      ["dynamicRegistration", "executionSummaryReport"])]

def windowSupport : Shape :=
  record "WindowClientCapabilities" [
    ("workDoneProgress", flag),
    ("showMessage", optional (record "ShowMessageRequestClientCapabilities" [
      ("messageActionItem",
        optional (flags "MessageActionItemCapabilities" ["additionalPropertiesSupport"]))])),
    ("showDocument", optional (record "ShowDocumentClientCapabilities" [("support", bool)]))]

def generalSupport : Shape :=
  record "GeneralClientCapabilities" [
    ("regularExpressions", optional (record "RegularExpressionsClientCapabilities"
      [("engine", text), ("version", optional text)])),
    ("markdown", optional (record "MarkdownClientCapabilities"
      [("parser", text), ("version", optional text), ("allowedTags", optional (list text))])),
    ("staleRequestSupport", optional (record "StaleRequestSupportClientCapabilities"
      [("cancel", bool), ("retryOnContentModified", list text)])),
    ("positionEncodings", optional (list text))]

def clientSupport : Shape :=
  record "ClientCapabilities" [
    ("workspace", optional workspaceSupport), ("textDocument", optional documentSupport),
    ("notebookDocument", optional notebookSupport), ("window", optional windowSupport),
    ("general", optional generalSupport), ("experimental", any)]

def launchParams : Shape :=
  record "InitializeParams" [
    ("processId", optional unsigned), ("rootPath", optional text),
    ("rootUri", default .null (optional uri)), ("initializationOptions", any),
    ("capabilities", clientSupport),
    ("trace", default .null (optional (word ["off", "messages", "verbose"]))),
    ("workspaceFolders", optional (list workspaceFolder)),
    ("clientInfo", optional (record "ClientInfo" [("name", text), ("version", optional text)])),
    ("locale", optional text)]

end Caddyfile.Editor.Shape
