import Caddyfile.Editor.Params
import Caddyfile.Editor.Shape.Capabilities
import Caddyfile.Editor.Shape.Request

/-!
# Methods

A message names a method. Some change the phase of a session, some are events on documents, and many
more are known to editors but not offered here; those still have to be asked for in the right shape.
-/

namespace Caddyfile.Editor

inductive Method where
  | launch
  | launched
  | shutdown
  | exit
  | cancel
  | event (asks : Bool) (params : Shape) (read : Json → Option Event)
  /-- A method that editors know but this session does not offer. -/
  | unsupported (asks : Bool) (params : Shape)

namespace Method

open Shape

def unsupportedRequests : List (String × Shape) := [
  ("callHierarchy/incomingCalls", callParams "CallHierarchyIncomingCallsParams"),
  ("callHierarchy/outgoingCalls", callParams "CallHierarchyOutgoingCallsParams"),
  ("codeAction/resolve", codeAction),
  ("codeLens/resolve", codeLens),
  ("completionItem/resolve", completionItem),
  ("documentLink/resolve", documentLink),
  ("inlayHint/resolve", inlayHint),
  ("textDocument/codeAction", codeActionParams),
  ("textDocument/codeLens", documentParams "CodeLensParams" []),
  ("textDocument/colorPresentation", colorParams),
  ("textDocument/declaration", placeParams "GotoDefinitionParams" partialResults),
  ("textDocument/definition", placeParams "GotoDefinitionParams" partialResults),
  ("textDocument/diagnostic", documentParams "DocumentDiagnosticParams"
    [("identifier", optional text), ("previousResultId", optional text)]),
  ("textDocument/documentColor", documentParams "DocumentColorParams" []),
  ("textDocument/documentHighlight", placeParams "DocumentHighlightParams" partialResults),
  ("textDocument/documentLink", documentParams "DocumentLinkParams" []),
  ("textDocument/documentSymbol", documentParams "DocumentSymbolParams" []),
  ("textDocument/foldingRange", documentParams "FoldingRangeParams" []),
  ("textDocument/formatting", formattingParams),
  ("textDocument/implementation", placeParams "GotoDefinitionParams" partialResults),
  ("textDocument/inlayHint", inlayHintParams),
  ("textDocument/inlineValue", inlineValueParams),
  ("textDocument/linkedEditingRange", placeParams "LinkedEditingRangeParams" []),
  ("textDocument/moniker", placeParams "MonikerParams" partialResults),
  ("textDocument/onTypeFormatting", onTypeFormattingParams),
  ("textDocument/prepareCallHierarchy", placeParams "CallHierarchyPrepareParams" []),
  ("textDocument/prepareRename", record "TextDocumentPositionParams" placeFields),
  ("textDocument/prepareTypeHierarchy", placeParams "TypeHierarchyPrepareParams" []),
  ("textDocument/rangeFormatting", rangeFormattingParams),
  ("textDocument/references", referenceParams),
  ("textDocument/rename", placeParams "RenameParams" [("newName", text)]),
  ("textDocument/selectionRange",
    documentParams "SelectionRangeParams" [("positions", list position)]),
  ("textDocument/semanticTokens/full", documentParams "SemanticTokensParams" []),
  ("textDocument/semanticTokens/full/delta",
    documentParams "SemanticTokensDeltaParams" [("previousResultId", text)]),
  ("textDocument/semanticTokens/range",
    documentParams "SemanticTokensRangeParams" [("range", range)]),
  ("textDocument/signatureHelp", signatureHelpParams),
  ("textDocument/typeDefinition", placeParams "GotoDefinitionParams" partialResults),
  ("textDocument/willSaveWaitUntil", beforeSaveParams),
  ("typeHierarchy/subtypes", typeParams "TypeHierarchySubtypesParams"),
  ("typeHierarchy/supertypes", typeParams "TypeHierarchySupertypesParams"),
  ("workspace/diagnostic", workspaceDiagnosticParams),
  ("workspace/executeCommand", commandParams),
  ("workspace/symbol", workspaceSymbolParams),
  ("workspace/willCreateFiles", filesParams "CreateFilesParams" "FileCreate"),
  ("workspace/willDeleteFiles", filesParams "DeleteFilesParams" "FileDelete"),
  ("workspace/willRenameFiles", renamedFilesParams),
  ("workspaceSymbol/resolve", workspaceSymbol)]

def unsupportedNotifications : List (String × Shape) := [
  ("textDocument/willSave", beforeSaveParams),
  ("workspace/didChangeConfiguration", configurationParams),
  ("workspace/didChangeWatchedFiles", watchedFilesParams),
  ("workspace/didChangeWorkspaceFolders", workspaceFoldersParams),
  ("workspace/didCreateFiles", filesParams "CreateFilesParams" "FileCreate"),
  ("workspace/didDeleteFiles", filesParams "DeleteFilesParams" "FileDelete"),
  ("workspace/didRenameFiles", renamedFilesParams)]

def ofName? (name : String) : Option Method :=
  match name with
  | "initialize" => some .launch
  | "initialized" => some .launched
  | "shutdown" => some .shutdown
  | "exit" => some .exit
  | "$/cancelRequest" => some .cancel
  | "textDocument/didOpen" => some (.event false openParams Params.opened?)
  | "textDocument/didChange" => some (.event false changeParams Params.changed?)
  | "textDocument/didSave" => some (.event false saveParams Params.saved?)
  | "textDocument/didClose" => some (.event false closeParams Params.closed?)
  | "textDocument/hover" => some (.event true (placeParams "HoverParams" []) Params.hover?)
  | "textDocument/completion" => some (.event true completionParams Params.completion?)
  | name =>
    (unsupportedRequests.lookup name).map (.unsupported true)
      <|> (unsupportedNotifications.lookup name).map (.unsupported false)

def asks : Method → Bool
  | launch | shutdown => true
  | launched | exit | cancel => false
  | event asks .. | unsupported asks _ => asks

end Method

end Caddyfile.Editor
