import ElixirLint.Service
import ElixirLint.Version

/-!
# Editor sessions

What the editor does in a session, and what follows from it. The session holds the documents that are open, each with
the text that the editor has for it, and the folders of the workspace; the lint service does the rest. An event first
changes the session, and then the documents that it asks to lint are handed to the service.

Main definitions: `EditorEvent`, `Session`, `Session.update` and `Session.handle`.
-/

namespace ElixirLint

/-- A folder that the editor works in. -/
structure Folder where
  /-- The URI under which the editor knows it. -/
  uri : DocumentUri
  /-- The directory. -/
  path : Path
  deriving DecidableEq, Repr

/-- What happens in an editor. -/
inductive EditorEvent
  /-- The editor has taken note that the server is ready. -/
  | ready
  /-- A document is opened. -/
  | opened (document : Document)
  /-- The text of a document changes; the texts are all it had in turn. -/
  | changed (uri : DocumentUri) (texts : List String)
  /-- A document is saved, perhaps with its text. -/
  | saved (uri : DocumentUri) (text : Option String)
  /-- A document is closed. -/
  | closed (uri : DocumentUri)
  /-- The settings change. -/
  | configured (settings : Json)
  /-- Folders are added to the workspace and removed from it. -/
  | foldersChanged (added removed : List Folder)

/-- The state of a session. -/
structure Session where
  /-- The documents that are open, the first opened first. -/
  documents : List Document
  /-- The folders of the workspace. -/
  folders : List Folder
  /-- The lint service. -/
  service : Service

namespace Session

/-- The session before anything has happened. -/
def start (script : List Reply) : Session := ⟨[], [], .start .default script⟩

/-! ### Documents -/

/-- The open document with a URI. -/
def find? (s : Session) (uri : DocumentUri) : Option Document := s.documents.find? fun d => d.uri = uri

/-- Removes a document from those that are open. -/
def drop (uri : DocumentUri) (s : Session) : Session :=
  { s with documents := s.documents.filter fun d => d.uri ≠ uri }

/-- Adds a document to those that are open, in place of one with its URI. -/
def insert (d : Document) (s : Session) : Session :=
  let s := s.drop d.uri
  { s with documents := s.documents ++ [d] }

/-- Sets the text of a document, if it is open. -/
def setText (uri : DocumentUri) (text : String) (s : Session) : Session :=
  { s with documents := s.documents.map fun d => if d.uri = uri then { d with text := text } else d }

/-! ### Folders -/

/-- Removes a folder from the workspace. -/
def removeFolder (s : Session) (f : Folder) : Session :=
  { s with folders := s.folders.filter fun g => g.uri ≠ f.uri }

/-- Adds a folder to the workspace, in place of one with its URI. -/
def addFolder (s : Session) (f : Folder) : Session :=
  let s := s.removeFolder f
  { s with folders := s.folders ++ [f] }

/-- Removes folders from the workspace and adds others; the service works with those that are left. -/
def changeFolders (added removed : List Folder) (s : Session) : Session :=
  let s := added.foldl addFolder (removed.foldl removeFolder s)
  { s with service := s.service.setFolders (s.folders.map (·.path)) }

/-! ### Settings -/

/-- Tells something to the editor. -/
def tell (level : MessageLevel) (message : String) (s : Session) : Session :=
  { s with service := s.service.emit (.notify level message) }

/-- Takes new settings. Settings that are not valid are told to the user and change nothing else; whether they were
valid comes with the session. -/
def takeSettings (settings : Json) (s : Session) : Session × Bool :=
  match Config.ofSettings settings with
  | .ok c => ({ s with service := s.service.configure c }, true)
  | .error e => (s.tell .error ("Invalid Credo settings: " ++ e.message), false)

/-! ### Events -/

/-- What an event changes, and the documents that are to be linted because of it. -/
def update (e : EditorEvent) (s : Session) : Session × List Document :=
  match e with
  | .ready => (s.tell .info ("Credo language server initialized (v" ++ version ++ ")"), [])
  | .opened d => (s.insert d, [d])
  | .changed uri texts =>
    match texts.getLast? with
    | some text => (s.setText uri text, [])
    | none => (s, [])
  | .saved uri text =>
    let s :=
      match text with
      | some text => s.setText uri text
      | none => s
    (s, (s.find? uri).toList)
  | .closed uri =>
    let s := s.drop uri
    ({ s with service := s.service.clear uri }, [])
  | .configured settings =>
    let (s, valid) := s.takeSettings settings
    (s, if valid then s.documents else [])
  | .foldersChanged added removed => (s.changeFolders added removed, [])

/-- Hands a document to the service. -/
def lint (env : Surroundings) (s : Session) (d : Document) : Session :=
  { s with service := (s.service.execute env d).1 }

/-- What follows from an event. -/
def handle (env : Surroundings) (e : EditorEvent) (s : Session) : Session :=
  let (s, documents) := s.update e
  documents.foldl (lint env) s

/-- The editor opens the session, with folders and perhaps settings. -/
def opening (folders : List Folder) (settings : Option Json) (s : Session) : Session :=
  let s := s.changeFolders folders []
  match settings with
  | some settings => (s.takeSettings settings).1
  | none => s

/-- The editor is about to end the session: nothing is linted any more. -/
def shutdown (s : Session) : Session := { s with service := s.service.shutdown }

/-- Goes on until all that is left to do waits for something. -/
def settle (env : Surroundings) (s : Session) : Session := { s with service := s.service.settle env }

end Session

end ElixirLint
