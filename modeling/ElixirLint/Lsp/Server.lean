import ElixirLint.Lsp.Method
import ElixirLint.Lsp.Outgoing
import ElixirLint.Rpc.Message

/-!
# The language server

Messages of the editor are answered one after the other. A session begins with a request that the server answers with
what it can do; before that, and after the request to shut down, nothing else is accepted. Requests are always answered,
notifications never.

Main definitions: `ServerPhase`, `Server` and `Server.receive`.
-/

namespace ElixirLint.Lsp

open ElixirLint.Rpc (Message Response RpcError)

/-- How far the server has come. -/
inductive ServerPhase
  | uninitialized
  | initialized
  | shutDown
  | exited
  deriving DecidableEq, Repr

/-- The state of the server. -/
structure Server where
  /-- How far it has come. -/
  phase : ServerPhase
  /-- The session. -/
  session : Session

/-- What the sender of a message gets. -/
inductive Answer
  /-- Nothing. -/
  | nothing
  /-- A response. -/
  | response (r : Response)
  /-- The server has exited and takes no messages. -/
  | exited

/-- The answer that may hold a response. -/
def Answer.ofOption : Option Response → Answer
  | some r => .response r
  | none => .nothing

namespace Server

/-- The server before any message. -/
def start (script : List Reply) : Server := ⟨.uninitialized, .start script⟩

/-- What the server can do: it wants whole texts, also on saving, and follows the folders of the workspace. -/
def abilities : Json :=
  .object
    [("textDocumentSync", .object
      [("change", .int 1), ("openClose", .bool true), ("save", .object [("includeText", .bool true)])]),
     ("workspace", .object
      [("workspaceFolders", .object [("changeNotifications", .bool true), ("supported", .bool true)])])]

/-- What the server answers when a session begins. -/
def greeting : Json :=
  .object
    [("capabilities", abilities),
     ("serverInfo", .object [("name", .string "Credo Language Server"), ("version", .string version)])]

/-- Why a request cannot be answered outside a session. -/
def closedError (s : Server) : RpcError :=
  match s.phase with
  | .uninitialized => .notInitialized
  | _ => .invalidRequest

/-- Changes the session. -/
def withSession (s : Server) (f : Session → Session) : Server := { s with session := f s.session }

/-- The session begins, unless the parameters cannot be read. Without an identifier the request is none, and nothing
begins. -/
def beginSession (m : Message) (s : Server) : Server × Option Response :=
  if m.id.isNone then (s, none)
  else if s.phase ≠ .uninitialized then (s, m.respond (.error .invalidRequest))
  else
    match m.decodeParams opening with
    | .error e => (s, m.respond (.error e))
    | .ok o =>
      let s := s.withSession (Session.opening o.folders o.settings)
      ({ s with phase := .initialized }, m.respond (.ok greeting))

/-- The session is about to end. That is so even if the parameters are not accepted. -/
def shutdown (m : Message) (s : Server) : Server × Option Response :=
  if s.phase ≠ .initialized then (s, m.respond (.error s.closedError))
  else
    let s : Server := { s with phase := .shutDown }
    if m.id.isNone then (s, none)
    else
      match m.params with
      | some params => (s, m.respond (.error (.invalidParams (.unexpected params))))
      | none => (s.withSession Session.shutdown, m.respond (.ok .null))

/-- Something happens in the editor. A message with an identifier asks for an answer that there is not, and has no
effect; nor has one whose parameters cannot be read. -/
def event (env : Surroundings) (decode : Json.Decoder (Option EditorEvent)) (m : Message) (s : Server) :
    Server × Option Response :=
  if s.phase ≠ .initialized then (s, m.respond (.error s.closedError))
  else if m.id.isSome then (s, m.respond (.error .invalidRequest))
  else
    match m.decodeParams decode with
    | .ok (some e) => (s.withSession (Session.handle env e), none)
    | _ => (s, none)

/-- A request is made that is not offered. -/
def refuse (check : Json.Decoder Unit) (m : Message) (s : Server) : Option Response :=
  if s.phase ≠ .initialized then m.respond (.error s.closedError)
  else
    match m.decodeParams check with
    | .error e => m.respond (.error e)
    | .ok () => m.respond (.error .unsupportedMethod)

/-- Deals with a message of a method. -/
def dispatch (env : Surroundings) (method : Method) (m : Message) (s : Server) : Server × Option Response :=
  match method with
  | .opening => s.beginSession m
  | .shutdown => s.shutdown m
  | .exit => ({ s with phase := .exited }, none)
  | .cancel => (s, m.respond (.error .invalidRequest))
  | .event decode => s.event env decode m
  | .unsupported check => (s, s.refuse check m)

/-- Deals with a message. -/
def receive (env : Surroundings) (m : Message) (s : Server) : Server × Answer :=
  if s.phase = .exited then (s, .exited)
  else
    match Method.ofName? m.method with
    | some method =>
      let (s, response) := s.dispatch env method m
      (s, .ofOption response)
    | none =>
      (s, if Method.isOptional m.method then .nothing else .ofOption (m.respond (.error (.unknownMethod m.method))))

/-- Goes on until all that is left to do waits for something. -/
def settle (env : Surroundings) (s : Server) : Server := s.withSession (Session.settle env)

/-- What the service has given notice of, the last first. -/
def notices (s : Server) : List Notice := s.session.service.notices

/-- The commands that were started, the last first. -/
def calls (s : Server) : List Command := s.session.service.calls

/-- Deals with a message and with all that follows from it, and tells the editor what happened meanwhile. -/
def converse (env : Surroundings) (m : Message) (s : Server) : Server × Answer × List Rpc.Notification :=
  let (next, answer) := s.receive env m
  let next := next.settle env
  (next, answer, (next.notices.take (next.notices.length - s.notices.length)).reverse.flatMap notifications)

/-- Deals with what arrives over a wire. The server waits for no responses, and says of what it cannot read that it is
no request. -/
def attend (env : Surroundings) (a : Rpc.Arrival) (s : Server) : Server × Answer × List Rpc.Notification :=
  match a with
  | .message m => s.converse env m
  | .response => (s, .nothing, [])
  | .unreadable => (s, if s.phase = .exited then .exited else .response Rpc.unreadableResponse, [])

end Server

end ElixirLint.Lsp
