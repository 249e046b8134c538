import ElixirLint.Rpc.Message
import ElixirLint.Service
import ElixirLint.Uri.Reference

/-!
# Notifications for the editor

How the notices of the lint service reach the editor: diagnostics are published for a document as a whole, and what is
told to the user is logged and, unless it is mere information, also shown.
-/

namespace ElixirLint.Lsp

open ElixirLint.Rpc (Notification)

/-- A position as JSON. -/
def positionJson (p : Position) : Json :=
  .object [("character", .int p.character.toNat), ("line", .int p.line.toNat)]

/-- A range as JSON. -/
def rangeJson (r : Range) : Json := .object [("end", positionJson r.stop), ("start", positionJson r.start)]

/-- The number of a severity. -/
def severityCode : Severity → Int
  | .error => 1
  | .warning => 2
  | .information => 3
  | .hint => 4

/-- A diagnostic as JSON. -/
def diagnosticJson (d : Diagnostic) : Json :=
  .object
    [("code", .string d.code), ("message", .string d.message), ("range", rangeJson d.range),
     ("severity", .int (severityCode d.severity)), ("source", .string Diagnostic.source)]

/-- The number of a level. -/
def levelCode : MessageLevel → Int
  | .error => 1
  | .warning => 2
  | .info => 3

/-- The diagnostics of a document; a text that is no URI cannot be told to the editor. -/
def publishing (uri : DocumentUri) (ds : List Diagnostic) : List Notification :=
  if Reference.isValid uri.text then
    [⟨"textDocument/publishDiagnostics",
      .object [("diagnostics", .array (ds.map diagnosticJson)), ("uri", .string uri.text)]⟩]
  else []

/-- A message for the log or for the user. -/
def messageParams (level : MessageLevel) (message : String) : Json :=
  .object [("message", .string message), ("type", .int (levelCode level))]

/-- What the editor is told when the service gives notice of something. -/
def notifications : Notice → List Notification
  | .publish uri ds => publishing uri ds
  | .clear uri => publishing uri []
  | .notify level message =>
    let logged : Notification := ⟨"window/logMessage", messageParams level message⟩
    let shown : Notification := ⟨"window/showMessage", messageParams level message⟩
    if level = .info then [logged] else [logged, shown]

end ElixirLint.Lsp
