import Caddyfile.Editor.Shape.Document

/-!
# Shapes of parameters

One shape for the parameters of each kind of message.
-/

namespace Caddyfile.Editor.Shape

/-! ## Notifications -/

def openParams : Shape :=
  record "DidOpenTextDocumentParams" [("textDocument", openedDocument)]

def changeParams : Shape :=
  record "DidChangeTextDocumentParams"
    [("textDocument", versionedDocument), ("contentChanges", list contentChange)]

def saveParams : Shape :=
  record "DidSaveTextDocumentParams" [("textDocument", document), ("text", optional text)]

def closeParams : Shape :=
  record "DidCloseTextDocumentParams" [("textDocument", document)]

def beforeSaveParams : Shape :=
  record "WillSaveTextDocumentParams" [("textDocument", document), ("reason", signed)]

def configurationParams : Shape :=
  record "DidChangeConfigurationParams" [("settings", present)]

def watchedFilesParams : Shape :=
  record "DidChangeWatchedFilesParams"
    [("changes", list (record "FileEvent" [("uri", uri), ("type", signed)]))]

def workspaceFoldersParams : Shape :=
  record "DidChangeWorkspaceFoldersParams" [
    ("event", record "WorkspaceFoldersChangeEvent"
      [("added", list workspaceFolder), ("removed", list workspaceFolder)])]

/-- Files that are created or deleted. Their addresses are not looked into. -/
def filesParams (title item : String) : Shape :=
  record title [("files", list (record item [("uri", text)]))]

def renamedFilesParams : Shape :=
  record "RenameFilesParams"
    [("files", list (record "FileRename" [("oldUri", text), ("newUri", text)]))]

/-! ## Requests about a document -/

def documentParams (title : String) (fields : Fields) : Shape :=
  merged title (("textDocument", document) :: fields ++ progress ++ partialResults)

def formattingOptions : Shape :=
  extended "FormattingOptions" [
    ("tabSize", unsigned), ("insertSpaces", bool), ("trimTrailingWhitespace", optional bool),
    ("insertFinalNewline", optional bool), ("trimFinalNewlines", optional bool)]
    (union "FormattingProperty" [bool, signed, text])

def formattingParams : Shape :=
  merged "DocumentFormattingParams"
    ([("textDocument", document), ("options", formattingOptions)] ++ progress)

def rangeFormattingParams : Shape :=
  merged "DocumentRangeFormattingParams"
    ([("textDocument", document), ("range", range), ("options", formattingOptions)] ++ progress)

def codeActionParams : Shape :=
  documentParams "CodeActionParams" [
    ("range", range),
    ("context", record "CodeActionContext" [
      ("diagnostics", list diagnostic), ("only", optional (list text)),
      ("triggerKind", optional signed)])]

def colorParams : Shape :=
  documentParams "ColorPresentationParams" [
    ("color", record "Color"
      [("red", number), ("green", number), ("blue", number), ("alpha", number)]),
    ("range", range)]

def inlayHintParams : Shape :=
  merged "InlayHintParams" (progress ++ [("textDocument", document), ("range", range)])

def inlineValueParams : Shape :=
  merged "InlineValueParams" (progress ++ [
    ("textDocument", document), ("range", range),
    ("context", record "InlineValueContext" [("frameId", signed), ("stoppedLocation", range)])])

/-! ## Requests about a place -/

def placeParams (title : String) (fields : Fields) : Shape :=
  merged title (placeFields ++ fields ++ progress)

def completionParams : Shape :=
  placeParams "CompletionParams" (partialResults ++ [
    ("context", optional (record "CompletionContext"
      [("triggerKind", signed), ("triggerCharacter", optional text)]))])

def referenceParams : Shape :=
  placeParams "ReferenceParams" (partialResults ++ [
    ("context", record "ReferenceContext" [("includeDeclaration", bool)])])

def onTypeFormattingParams : Shape :=
  merged "DocumentOnTypeFormattingParams"
    (placeFields ++ [("ch", text), ("options", formattingOptions)])

def signatureHelp : Shape :=
  record "SignatureHelp" [
    ("signatures", list (record "SignatureInformation" [
      ("label", text), ("documentation", optional (prose "Documentation")),
      ("parameters", optional (list (record "ParameterInformation" [
        ("label", union "ParameterLabel" [text, tuple 2 unsigned]),
        ("documentation", optional (prose "Documentation"))]))),
      ("activeParameter", optional unsigned)])),
    ("activeSignature", optional unsigned), ("activeParameter", optional unsigned)]

def signatureHelpParams : Shape :=
  placeParams "SignatureHelpParams" [
    ("context", optional (record "SignatureHelpContext" [
      ("triggerKind", signed), ("triggerCharacter", optional text), ("isRetrigger", bool),
      ("activeSignatureHelp", optional signatureHelp)]))]

/-! ## Requests about something that was answered before -/

def codeLens : Shape :=
  record "CodeLens" [("range", range), ("command", optional command), ("data", any)]

def documentLink : Shape :=
  record "DocumentLink"
    [("range", range), ("target", optional uri), ("tooltip", optional text), ("data", any)]

def codeAction : Shape :=
  record "CodeAction" [
    ("title", text), ("kind", optional text), ("diagnostics", optional (list diagnostic)),
    ("edit", optional workspaceEdit), ("command", optional command),
    ("isPreferred", optional bool),
    ("disabled", optional (record "CodeActionDisabled" [("reason", text)])), ("data", any)]

def completionItem : Shape :=
  record "CompletionItem" [
    ("label", text),
    ("labelDetails", optional (record "CompletionItemLabelDetails"
      [("detail", optional text), ("description", optional text)])),
    ("kind", optional signed), ("detail", optional text),
    ("documentation", optional (prose "Documentation")), ("deprecated", optional bool),
    ("preselect", optional bool), ("sortText", optional text), ("filterText", optional text),
    ("insertText", optional text), ("insertTextFormat", optional signed),
    ("insertTextMode", optional signed),
    ("textEdit", optional (union "CompletionTextEdit" [
      textEdit,
      record "InsertReplaceEdit" [("newText", text), ("insert", range), ("replace", range)]])),
    ("additionalTextEdits", optional (list textEdit)), ("command", optional command),
    ("commitCharacters", optional (list text)), ("data", any), ("tags", optional (list signed))]

def inlayHint : Shape :=
  record "InlayHint" [
    ("position", position),
    ("label", union "InlayHintLabel" [text, list (record "InlayHintLabelPart" [
      ("value", text), ("tooltip", optional (prose "InlayHintLabelPartTooltip")),
      ("location", optional location), ("command", optional command)])]),
    ("kind", optional signed), ("textEdits", optional (list textEdit)),
    ("tooltip", optional (prose "InlayHintTooltip")), ("paddingLeft", optional bool),
    ("paddingRight", optional bool), ("data", any)]

def hierarchyItem (title : String) (tags : Shape) : Shape :=
  record title [
    ("name", text), ("kind", signed), ("tags", optional tags), ("detail", optional text),
    ("uri", uri), ("range", range), ("selectionRange", range), ("data", any)]

def hierarchyParams (title : String) (item : Shape) : Shape :=
  merged title ([("item", item)] ++ progress ++ partialResults)

def callParams (title : String) : Shape :=
  hierarchyParams title (hierarchyItem "CallHierarchyItem" (list signed))

def typeParams (title : String) : Shape :=
  hierarchyParams title (hierarchyItem "TypeHierarchyItem" signed)

/-! ## Requests about the workspace -/

def workspaceSymbolParams : Shape :=
  merged "WorkspaceSymbolParams" (partialResults ++ progress ++ [("query", text)])

def workspaceSymbol : Shape :=
  record "WorkspaceSymbol" [
    ("name", text), ("kind", signed), ("tags", optional (list signed)),
    ("containerName", optional text),
    ("location", union "OneOf" [location, record "WorkspaceLocation" [("uri", uri)]]),
    ("data", any)]

def workspaceDiagnosticParams : Shape :=
  merged "WorkspaceDiagnosticParams" ([
    ("identifier", optional text),
    ("previousResultIds", list (record "PreviousResultId" [("uri", uri), ("value", text)]))]
    ++ progress ++ partialResults)

def commandParams : Shape :=
  merged "ExecuteCommandParams"
    ([("command", text), ("arguments", default (.array []) (list any))] ++ progress)

end Caddyfile.Editor.Shape
