import Caddyfile.Editor.Shape

/-!
# Shapes of documents, edits and diagnostics

The records that the parameters of several messages share.
-/

namespace Caddyfile.Editor.Shape

/-! ## Places -/

def position : Shape :=
  record "Position" [("line", unsigned), ("character", unsigned)]

def range : Shape :=
  record "Range" [("start", position), ("end", position)]

def location : Shape :=
  record "Location" [("uri", uri), ("range", range)]

/-! ## Documents -/

def document : Shape :=
  record "TextDocumentIdentifier" [("uri", uri)]

def versionedDocument : Shape :=
  record "VersionedTextDocumentIdentifier" [("uri", uri), ("version", signed)]

def optionallyVersionedDocument : Shape :=
  record "OptionalVersionedTextDocumentIdentifier" [("uri", uri), ("version", optional signed)]

def openedDocument : Shape :=
  record "TextDocumentItem"
    [("uri", uri), ("languageId", text), ("version", signed), ("text", text)]

def contentChange : Shape :=
  record "TextDocumentContentChangeEvent"
    [("range", optional range), ("rangeLength", optional unsigned), ("text", text)]

def workspaceFolder : Shape :=
  record "WorkspaceFolder" [("uri", uri), ("name", text)]

def placeFields : Fields :=
  [("textDocument", document), ("position", position)]

/-! ## Progress -/

def numberOrString : Shape :=
  union "NumberOrString" [signed, text]

def progress : Fields :=
  [("workDoneToken", optional numberOrString)]

def partialResults : Fields :=
  [("partialResultToken", optional numberOrString)]

/-! ## Texts for people -/

def markupKind : Shape :=
  word ["plaintext", "markdown"]

def markup : Shape :=
  record "MarkupContent" [("kind", markupKind), ("value", text)]

def prose (title : String) : Shape :=
  union title [text, markup]

def command : Shape :=
  record "Command" [("title", text), ("command", text), ("arguments", optional (list any))]

/-! ## Diagnostics -/

def relatedInformation : Shape :=
  record "DiagnosticRelatedInformation" [("location", location), ("message", text)]

def diagnostic : Shape :=
  record "Diagnostic" [
    ("range", range), ("severity", optional signed), ("code", optional numberOrString),
    ("codeDescription", optional (record "CodeDescription" [("href", uri)])),
    ("source", optional text), ("message", text),
    ("relatedInformation", optional (list relatedInformation)), ("tags", optional (list signed)),
    ("data", any)]

/-! ## Edits -/

def textEdit : Shape :=
  record "TextEdit" [("range", range), ("newText", text)]

def annotatedEdit : Shape :=
  merged "AnnotatedTextEdit" [("range", range), ("newText", text), ("annotationId", text)]

def documentEdit : Shape :=
  record "TextDocumentEdit" [
    ("textDocument", optionallyVersionedDocument),
    ("edits", list (union "OneOf" [textEdit, annotatedEdit]))]

def fileOptions (title : String) : Shape :=
  record title [("overwrite", optional bool), ("ignoreIfExists", optional bool)]

def fileOperation : Shape :=
  tagged "ResourceOp" "kind" [
    ("create", record "CreateFile" [
      ("uri", uri), ("options", optional (fileOptions "CreateFileOptions")),
      ("annotationId", optional text)]),
    ("rename", record "RenameFile" [
      ("oldUri", uri), ("newUri", uri), ("options", optional (fileOptions "RenameFileOptions")),
      ("annotationId", optional text)]),
    ("delete", record "DeleteFile" [
      ("uri", uri),
      ("options", optional (record "DeleteFileOptions" [
        ("recursive", optional bool), ("ignoreIfNotExists", optional bool),
        ("annotationId", optional text)]))])]

def documentChanges : Shape :=
  union "DocumentChanges" [
    list documentEdit, list (union "DocumentChangeOperation" [fileOperation, documentEdit])]

def changeNote : Shape :=
  record "ChangeAnnotation"
    [("label", text), ("needsConfirmation", optional bool), ("description", optional text)]

def workspaceEdit : Shape :=
  record "WorkspaceEdit" [
    ("changes", default .null (optional (dictionary uri (list textEdit)))),
    ("documentChanges", optional documentChanges),
    ("changeAnnotations", optional (dictionary text changeNote))]

end Caddyfile.Editor.Shape
