import ElixirLint.Lsp.Capabilities
import ElixirLint.Session

/-!
# Parameters of what the server follows

How the parameters of the methods that the server offers are read: they become an `EditorEvent` or an `Opening`.
-/

namespace ElixirLint.Lsp

open ElixirLint.Json (Decoder Record)

/-! ### Events -/

/-- Reads the document that is opened. -/
def openedDocument : Decoder Document :=
  (Record.mk "TextDocumentItem" (⟨⟨""⟩, "", ""⟩ : Document)
    [.needed "uri" uri fun u d => { d with uri := u },
     .needed "languageId" Decoder.string fun s d => { d with languageId := s },
     .needed "version" Decoder.int32 fun _ d => d,
     .needed "text" Decoder.string fun s d => { d with text := s }]).decoder

/-- Reads that a document is opened. -/
def opened : Decoder EditorEvent :=
  (Record.mk "DidOpenTextDocumentParams" (.ready : EditorEvent)
    [.needed "textDocument" openedDocument fun d _ => .opened d]).decoder

/-- Reads one change of a text; the range is only checked, for every change brings the whole text. -/
def contentChange : Decoder String :=
  (Record.mk "TextDocumentContentChangeEvent" ""
    [.nullable "range" range fun _ s => s, .nullable "rangeLength" Decoder.word32 fun _ s => s,
     .needed "text" Decoder.string fun t _ => t]).decoder

/-- Reads that the text of a document changes. -/
def changed : Decoder EditorEvent := fun l v =>
  ((Record.mk "DidChangeTextDocumentParams" ((⟨""⟩, []) : DocumentUri × List String)
    [.needed "textDocument" versionedDocumentId fun u p => (u, p.2),
     .needed "contentChanges" (Decoder.list contentChange) fun ts p => (p.1, ts)]).decoder l v).map
    fun (uri, texts) => .changed uri texts

/-- Reads that a document is saved. -/
def saved : Decoder EditorEvent := fun l v =>
  ((Record.mk "DidSaveTextDocumentParams" ((⟨""⟩, none) : DocumentUri × Option String)
    [.needed "textDocument" documentId fun u p => (u, p.2),
     .nullable "text" Decoder.string fun t p => (p.1, t)]).decoder l v).map
    fun (uri, text) => .saved uri text

/-- Reads that a document is closed. -/
def closed : Decoder EditorEvent :=
  (Record.mk "DidCloseTextDocumentParams" (.ready : EditorEvent)
    [.needed "textDocument" documentId fun u _ => .closed u]).decoder

/-- Reads new settings, which may be any value. -/
def configured : Decoder EditorEvent :=
  (Record.mk "DidChangeConfigurationParams" (.ready : EditorEvent)
    [.needed "settings" Decoder.json fun v _ => .configured v]).decoder

/-- Reads a folder of the workspace. Its directory is the path of its URI, whatever the scheme. -/
def folder : Decoder Folder :=
  (Record.mk "WorkspaceFolder" (⟨⟨""⟩, ⟨[]⟩⟩ : Folder)
    [.needed "uri" reference fun (s, r) _ => ⟨⟨s⟩, .ofString r.decodedPath⟩,
     .needed "name" Decoder.string fun _ f => f]).decoder

/-- Reads folders that come and go. -/
def foldersEvent : Decoder (List Folder × List Folder) :=
  (Record.mk "WorkspaceFoldersChangeEvent" (([], []) : List Folder × List Folder)
    [.needed "added" (Decoder.list folder) fun fs p => (fs, p.2),
     .needed "removed" (Decoder.list folder) fun fs p => (p.1, fs)]).decoder

/-- Reads that the folders of the workspace change. -/
def foldersChanged : Decoder EditorEvent := fun l v =>
  ((Record.mk "DidChangeWorkspaceFoldersParams" (([], []) : List Folder × List Folder)
    [.needed "event" foldersEvent fun p _ => p]).decoder l v).map
    fun (added, removed) => .foldersChanged added removed

/-- Reads that the editor has taken note. -/
def ready : Decoder EditorEvent := (Record.mk "InitializedParams" (.ready : EditorEvent) []).decoder

/-! ### The opening of a session -/

/-- What the editor says when it opens a session. -/
structure Opening where
  /-- The folders of the workspace. -/
  folders : List Folder
  /-- The settings. -/
  settings : Option Json

/-- Checks which editor it is. -/
def clientInfo : Decoder Unit := checked "ClientInfo" [must "name" Decoder.string, may "version" Decoder.string]

/-- Reads all that the editor says in the opening but the token for progress. -/
def openingRecord : Record Opening where
  name := "InitializeParams"
  initial := ⟨[], none⟩
  fields :=
    [.nullable "processId" Decoder.word32 fun _ o => o,
     .nullable "rootPath" Decoder.string fun _ o => o,
     .nullable "rootUri" uri fun _ o => o,
     .nullable "initializationOptions" Decoder.json fun v o => { o with settings := v },
     .needed "capabilities" capabilities fun _ o => o,
     .nullable "trace" (Decoder.word ["off", "messages", "verbose"]) fun _ o => o,
     .nullable "workspaceFolders" (Decoder.list folder) fun fs o => { o with folders := fs.getD [] },
     .nullable "clientInfo" clientInfo fun _ o => o,
     .nullable "locale" Decoder.string fun _ o => o]

/-- Reads the opening. The token for progress is looked at last. -/
def opening : Decoder Opening := openingRecord.withParts [workDonePart]

end ElixirLint.Lsp
