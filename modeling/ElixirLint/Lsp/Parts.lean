import ElixirLint.Document
import ElixirLint.Json.Decode
import ElixirLint.Uri.Reference

/-!
# Parts of parameters

What the parameters of several methods have in common: URIs, tokens, positions and ranges, edits, commands and
diagnostics. Most of it is only checked, for the server has no use for it; `checked` makes the reader of a record from
its fields alone, and `composed` that of a record whose members stand beside those of its parts.
-/

namespace ElixirLint.Lsp

open ElixirLint.Json (Decoder DecodeError RecordField Record)

/-! ### Records that are only checked -/

/-- The record whose fields are read and forgotten. -/
def checked (name : String) (fields : List (RecordField Unit)) : Decoder Unit :=
  (Record.mk name () fields).decoder

/-- The record whose fields are read and forgotten, and whose members stand beside those of its parts. It is read from
an object only, its own members first. -/
def composed (name : String) (fields : List (RecordField Unit)) (parts : List (Decoder Unit)) : Decoder Unit :=
  (Record.mk name () fields).withParts parts

/-- The field that must be there and is only checked. -/
def must {α : Type} (name : String) (d : Decoder α) : RecordField Unit := .needed name d fun _ u => u

/-- The field that may be there and is only checked. -/
def may {α : Type} (name : String) (d : Decoder α) : RecordField Unit := .nullable name d fun _ u => u

/-- The record of truth values that may be there. -/
def flags (name : String) (fields : List String) : Decoder Unit :=
  checked name (fields.map fun field => may field Decoder.boolean)

/-- The list of strings that must be there, and nothing else. -/
def names (record field : String) : Decoder Unit := checked record [must field (Decoder.list .string)]

/-! ### URIs and tokens -/

/-- The reference that a text is. -/
def referenceOf (s : String) : Except DecodeError Reference :=
  match Reference.parse s.toList with
  | .ok r => .ok r
  | .error fault => .error (.refused fault.message)

/-- Reads a URI reference. -/
def reference : Decoder (String × Reference) := fun l v =>
  match Decoder.string l v with
  | .error e => .error e
  | .ok s => (referenceOf s).map fun r => (s, r)

/-- Reads a document's URI. -/
def uri : Decoder DocumentUri := fun l v => (reference l v).map fun (s, _) => ⟨s⟩

/-- Reads a number or a text that the editor chose as a token. -/
def token : Decoder Unit := .firstOf "NumberOrString" [Decoder.int32.skip, Decoder.string.skip]

/-- The part with the token for progress. -/
def workDonePart : Decoder Unit := checked "WorkDoneProgressParams" [may "workDoneToken" token]

/-- The part with the token for partial results. -/
def partialResultPart : Decoder Unit := checked "PartialResultParams" [may "partialResultToken" token]

/-! ### Documents and places in them -/

/-- Reads a document's URI that stands in an object of its own. -/
def documentId : Decoder DocumentUri :=
  (Record.mk "TextDocumentIdentifier" (⟨""⟩ : DocumentUri) [.needed "uri" uri fun u _ => u]).decoder

/-- Reads a document's URI that stands beside a version. -/
def versionedDocumentId : Decoder DocumentUri :=
  (Record.mk "VersionedTextDocumentIdentifier" (⟨""⟩ : DocumentUri)
    [.needed "uri" uri fun u _ => u, .needed "version" Decoder.int32 fun _ u => u]).decoder

/-- The field for the document that a request is about. -/
def documentField : RecordField Unit := must "textDocument" documentId

/-- Checks a position. -/
def position : Decoder Unit :=
  checked "Position" [must "line" Decoder.word32, must "character" Decoder.word32]

/-- Checks a range. -/
def range : Decoder Unit := checked "Range" [must "start" position, must "end" position]

/-- Checks a range of a document. -/
def location : Decoder Unit := checked "Location" [must "uri" uri, must "range" range]

/-- Checks a position in a document. -/
def documentPosition : Decoder Unit :=
  checked "TextDocumentPositionParams" [documentField, must "position" position]

/-! ### Texts, commands and edits -/

/-- Checks a text with its format. -/
def markup : Decoder Unit :=
  checked "MarkupContent" [must "kind" (Decoder.word ["plaintext", "markdown"]), must "value" Decoder.string]

/-- Checks a text, perhaps with its format; the name of the choice stands in messages. -/
def textOrMarkup (name : String) : Decoder Unit := .firstOf name [Decoder.string.skip, markup]

/-- Checks a command. -/
def command : Decoder Unit :=
  checked "Command"
    [must "title" Decoder.string, must "command" Decoder.string, may "arguments" (Decoder.list .json)]

/-- Checks the edit of a range. -/
def textEdit : Decoder Unit := checked "TextEdit" [must "range" range, must "newText" Decoder.string]

/-- Checks the edit of one of two ranges. -/
def insertReplaceEdit : Decoder Unit :=
  checked "InsertReplaceEdit" [must "newText" Decoder.string, must "insert" range, must "replace" range]

/-- Checks the edits of a document that may have a version. -/
def documentEdit : Decoder Unit :=
  checked "TextDocumentEdit"
    [must "textDocument" (checked "OptionalVersionedTextDocumentIdentifier"
       [must "uri" uri, may "version" Decoder.int32]),
     must "edits" (Decoder.list (.firstOf "OneOf"
       [textEdit, composed "AnnotatedTextEdit" [must "annotationId" Decoder.string] [textEdit]]))]

/-- Checks an operation on a file whose kind a member tells. -/
def fileOperation (kind : String) (fields : List (RecordField Unit)) : Decoder Unit :=
  checked "ResourceOp" (must "kind" (Decoder.word [kind]) :: fields)

/-- Checks an operation on a file: it is created, renamed or deleted. -/
def resourceOperation : Decoder Unit := .firstOf "ResourceOp"
  [fileOperation "create"
     [must "uri" uri, may "options" (flags "CreateFileOptions" ["overwrite", "ignoreIfExists"]),
      may "annotationId" Decoder.string],
   fileOperation "rename"
     [must "oldUri" uri, must "newUri" uri,
      may "options" (flags "RenameFileOptions" ["overwrite", "ignoreIfExists"]), may "annotationId" Decoder.string],
   fileOperation "delete"
     [must "uri" uri, may "options" (checked "DeleteFileOptions"
       [may "recursive" Decoder.boolean, may "ignoreIfNotExists" Decoder.boolean,
        may "annotationId" Decoder.string])]]

/-- Checks changes all over the workspace. -/
def workspaceEdit : Decoder Unit :=
  checked "WorkspaceEdit"
    [{ may "changes" (Decoder.mapping .table referenceOf (.list textEdit)) with itemRequired := false },
     may "documentChanges" (.firstOf "DocumentChanges"
       [(Decoder.list documentEdit).skip,
        (Decoder.list (.firstOf "DocumentChangeOperation" [resourceOperation, documentEdit])).skip]),
     may "changeAnnotations" (Decoder.mapping .mapping .ok (checked "ChangeAnnotation"
       [must "label" Decoder.string, may "needsConfirmation" Decoder.boolean, may "description" Decoder.string]))]

/-! ### Diagnostics -/

/-- Checks a diagnostic. -/
def diagnostic : Decoder Unit :=
  checked "Diagnostic"
    [must "range" range, may "severity" Decoder.int32, may "code" token,
     may "codeDescription" (checked "CodeDescription" [must "href" uri]), may "source" Decoder.string,
     must "message" Decoder.string,
     may "relatedInformation" (Decoder.list (checked "DiagnosticRelatedInformation"
       [must "location" location, must "message" Decoder.string])),
     may "tags" (Decoder.list .int32), may "data" Decoder.json]

end ElixirLint.Lsp
