import ElixirLint.Json.Decode

/-!
# Messages between programs

Requests, notifications and responses as JSON values. A message names a method; one with an identifier is a request and
is answered by a response with the same identifier, one without is a notification. A response holds a result or an
error; an error has a number, a text and perhaps some data.
-/

namespace ElixirLint.Rpc

/-- What identifies a request. -/
inductive RequestId
  | number (n : Int)
  | text (s : String)
  | null
  deriving DecidableEq, Repr

namespace RequestId

/-- An identifier as JSON. -/
def toJson : RequestId → Json
  | .number n => .int n
  | .text s => .string s
  | .null => .null

/-- The identifier that a value is. -/
def ofJson? : Json → Option RequestId
  | .int n => if n ≤ Json.Literal.maxSigned then some (.number n) else none
  | .string s => some (.text s)
  | .null => some .null
  | _ => none

end RequestId

/-- A request or a notification. -/
structure Message where
  /-- The method. -/
  method : String
  /-- The identifier of a request. -/
  id : Option RequestId
  /-- The parameters, if there are any. -/
  params : Option Json
  deriving Repr

/-- The message that a value is; without a method, the method is the empty text, and parameters that are null are
none. -/
def Message.ofJson? (v : Json) : Option Message :=
  match v, (v.get? "method").getD (.string "") with
  | .object _, .string method =>
    let params := (v.get? "params").filter fun p => !p.isNull
    match v.get? "id" with
    | none => some ⟨method, none, params⟩
    | some id => (RequestId.ofJson? id).map fun id => ⟨method, some id, params⟩
  | _, _ => none

/-- Why parameters are not accepted. -/
inductive ParamsFault
  /-- There are none. -/
  | missing
  /-- There are some. -/
  | unexpected (params : Json)
  /-- They are not those of the method. -/
  | undecodable (error : Json.DecodeError)
  deriving Repr

/-- The message of a fault in parameters. -/
def ParamsFault.message : ParamsFault → String
  | .missing => "Missing params field"
  | .unexpected params => "Unexpected params: " ++ params.compact
  | .undecodable e => e.message

/-- Why a request is refused. -/
inductive RpcError
  /-- The method is not one of the protocol. -/
  | unknownMethod (method : String)
  /-- The method is one of the protocol that is not offered. -/
  | unsupportedMethod
  /-- The request cannot be made now, or not with an identifier. -/
  | invalidRequest
  /-- The session has not begun. -/
  | notInitialized
  /-- The parameters are not accepted. -/
  | invalidParams (fault : ParamsFault)
  deriving Repr

namespace RpcError

/-- The number of an error. -/
def code : RpcError → Int
  | .unknownMethod _ => -32601
  | .unsupportedMethod => -32601
  | .invalidRequest => -32600
  | .notInitialized => -32002
  | .invalidParams _ => -32602

/-- The message of an error. -/
def message : RpcError → String
  | .unknownMethod _ => "Method not found"
  | .unsupportedMethod => "Method not found"
  | .invalidRequest => "Invalid request"
  | .notInitialized => "Server not initialized"
  | .invalidParams fault => fault.message

/-- The data of an error. -/
def data : RpcError → Option Json
  | .unknownMethod method => some (.string method)
  | _ => none

/-- An error as JSON. -/
def toJson (e : RpcError) : Json :=
  .object ([("code", .int e.code)] ++ (e.data.map fun d => ("data", d)).toList ++ [("message", .string e.message)])

end RpcError

/-- The answer to a request. -/
structure Response where
  /-- The identifier of the request. -/
  id : RequestId
  /-- The result, or why there is none. -/
  result : Except RpcError Json

/-- A response as JSON. -/
def Response.toJson (r : Response) : Json :=
  match r.result with
  | .ok v => .object [("id", r.id.toJson), ("result", v)]
  | .error e => .object [("error", e.toJson), ("id", r.id.toJson)]

/-- A notification from the server. -/
structure Notification where
  /-- The method. -/
  method : String
  /-- The parameters. -/
  params : Json
  deriving Repr

/-- A notification as JSON. -/
def Notification.toJson (n : Notification) : Json := .object [("method", .string n.method), ("params", n.params)]

/-- The parameters of a message, decoded. -/
def Message.decodeParams {α : Type} (m : Message) (d : Json.Decoder α) : Except RpcError α :=
  match m.params with
  | none => .error (.invalidParams .missing)
  | some params =>
    match Json.decodeValue d params with
    | .ok a => .ok a
    | .error e => .error (.invalidParams (.undecodable e))

/-- What arrives over a wire. -/
inductive Arrival
  /-- A request or a notification. -/
  | message (m : Message)
  /-- A response. -/
  | response
  /-- A value that is none of them. -/
  | unreadable

/-- Whether a value is an error as it stands in a response. -/
def isError (v : Json) : Bool :=
  match v.get? "code", v.get? "message" with
  | some (.int _), some (.string _) => true
  | _, _ => false

/-- What a value is that arrives over a wire. It says which version of the protocol it follows; with an identifier and
a result or an error it is a response. -/
def Arrival.ofJson (v : Json) : Arrival :=
  let answers := ((v.get? "id").bind RequestId.ofJson?).isSome &&
    ((v.get? "result").isSome || (v.get? "error").any isError)
  match (v.get? "jsonrpc").bind Json.string?, Message.ofJson? v with
  | some "2.0", some m => if answers then .response else .message m
  | some "2.0", none => if answers then .response else .unreadable
  | _, _ => .unreadable

/-- The response to what cannot be read. -/
def unreadableResponse : Response := ⟨.null, .error .invalidRequest⟩

/-- The response that a message is given, if it is a request. -/
def Message.respond (m : Message) (result : Except RpcError Json) : Option Response :=
  m.id.map fun id => ⟨id, result⟩

end ElixirLint.Rpc
