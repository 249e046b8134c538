import ElixirLint.Lsp.Params
import ElixirLint.Lsp.Requests

/-!
# Methods of the protocol

Which methods there are, and what the server makes of each. Methods that are not in the table are unknown.
-/

namespace ElixirLint.Lsp

open ElixirLint.Json (Decoder)

/-- What the server makes of a method. -/
inductive Method
  /-- The session begins. -/
  | opening
  /-- The session is about to end. -/
  | shutdown
  /-- The server ends. -/
  | exit
  /-- A request is not wanted any more; requests are answered at once, so nothing is left to do. -/
  | cancel
  /-- Something happens in the editor; none if it is of no interest. -/
  | event (decode : Decoder (Option EditorEvent))
  /-- A request that is not offered. -/
  | unsupported (check : Decoder Unit)

namespace Method

/-- Something of interest happens in the editor. -/
def of (d : Decoder EditorEvent) : Method := .event fun l v => (d l v).map some

/-- Something happens in the editor that is of no interest. -/
def ignored : Method := .event fun _ _ => .ok none

/-- The methods that the server offers. -/
def offered : List (String × Method) :=
  [("initialize", .opening), ("shutdown", .shutdown), ("exit", .exit), ("$/cancelRequest", .cancel),
   ("initialized", of ready),
   ("textDocument/didOpen", of opened), ("textDocument/didChange", of changed), ("textDocument/didSave", of saved),
   ("textDocument/didClose", of closed), ("workspace/didChangeConfiguration", of configured),
   ("workspace/didChangeWorkspaceFolders", of foldersChanged)]

/-- The notifications of the protocol that are of no interest. -/
def ignoredNames : List String :=
  ["textDocument/willSave", "notebookDocument/didOpen", "notebookDocument/didChange", "notebookDocument/didSave",
   "notebookDocument/didClose", "workspace/didChangeWatchedFiles", "workspace/didCreateFiles",
   "workspace/didRenameFiles", "workspace/didDeleteFiles", "window/workDoneProgress/cancel"]

/-- All methods of the protocol by their names. -/
def table : List (String × Method) :=
  offered ++ ignoredNames.map (fun n => (n, ignored)) ++ requests.map fun (n, check) => (n, .unsupported check)

/-- The method with a name. -/
def ofName? (name : String) : Option Method := table.lookup name

/-- Whether a method that is not known may be passed over in silence. -/
def isOptional (name : String) : Bool := "$/".toList.isPrefixOf name.toList

end Method

end ElixirLint.Lsp
