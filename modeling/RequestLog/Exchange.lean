import RequestLog.Headers
import RequestLog.Text.Cut
import RequestLog.Value.Elements

/-!
# Exchanges

An exchange is a request and the response to it, as far as the log looks at them. A request is
read from the scope in which a server presents it: the logged address keeps the percent-encoding
of the path and takes the query behind a question mark; the client's own claim to be another
address is believed only where the proxy in front is trusted. A server can give values of any kind;
what is read from them fails where their kind does not allow it.
-/

namespace RequestLog

/-- The request of an exchange. `started` is the reading of the clock at its arrival. -/
structure Request where
  method : Value
  url : Value
  fullUrl : Value := .absent
  headers : Headers := .empty
  httpVersion : Value := .text "1.1"
  /-- The client's address as a trusted proxy gives it. -/
  ip : Value := .absent
  /-- The client's address as it was at the arrival. -/
  remoteAddress : Value := .absent
  /-- The address of the other end of the connection. -/
  socketAddress : Value := .absent
  started : Option Int := none
  deriving Inhabited

/-- The response of an exchange. Whether its headers have been sent and whether it is finished count
by their truth; `started` is the reading of the clock at its start. -/
structure Response where
  statusCode : Value := .absent
  headers : Headers := .empty
  headersSent : Value := .bool false
  finished : Value := .bool false
  started : Option Int := none
  deriving Inhabited

/-- A message between a server and an application. What a message does not have is none; what it has
beside that is nobody's concern here and stays as it is. -/
structure Message where
  kind : Option Value := none
  status : Option Value := none
  headers : Option (List (Bytes × Bytes)) := none
  body : Option Bytes := none
  moreBody : Option Value := none
  others : Fields := []
  deriving Inhabited

/-- The message starts a response. -/
def Message.isStart (m : Message) : Bool := m.kind.bind Value.text? == some "http.response.start"

/-- The message is the last part of a response. -/
def Message.isLast (m : Message) : Bool :=
  m.kind.bind Value.text? == some "http.response.body" && !m.moreBody.any Value.truth

/-- How a server presents a connection. What the scope does not have is none; the client is the
address and the port of the other end, if they are known, and the server is what it calls itself. -/
structure Scope where
  kind : Option Value := none
  method : Option Value := none
  path : Option Value := none
  rawPath : Option Value := none
  query : Option Value := none
  headers : Option (List (Bytes × Bytes)) := none
  httpVersion : Option Value := none
  client : List Value := []
  server : Option String := none
  deriving Inhabited

namespace Request

/-- The address of the client: as a trusted proxy gives it, else as it was at the arrival, else
that of the connection. -/
def clientAddress (r : Request) : Value :=
  ((r.ip.orElse r.remoteAddress).orElse r.socketAddress).orElse .absent

/-- The logged address begins like a text. Only a text can be asked for that. -/
def urlBegins (r : Request) (start : String) : Except Fault Bool :=
  match r.url with
  | .text s => .ok (start.toList.isPrefixOf s.toList)
  | .bytes _ | .buffer _ =>
    .error (.unsuitable "startswith first arg must be bytes or a tuple of bytes, not str")
  | v => .error (.noOperation v.typeName "startswith")

/-- The first address of a forwarding header, if there is one. -/
def forwardedAddress (forwarded : Option String) : Value :=
  match forwarded with
  | none => .absent
  | some s =>
    let first := (Text.cutAt ',' s.toList).elim s.toList (·.1)
    (Value.text (Text.trim (String.ofList first))).orElse .absent

/-- The characters that bytes number. -/
def decoded (v : Value) : Except Fault String :=
  match v with
  | .bytes b | .buffer b => .ok (Text.Latin.decode b)
  | v => .error (.noOperation v.typeName "decode")

/-- The path as it is logged: the undecoded bytes where the server gives them. -/
def pathOf (scope : Scope) : Except Fault Value :=
  match scope.rawPath.filter Value.truth with
  | some raw => do return .text (← decoded raw)
  | none => .ok (scope.path.getD (.text ""))

/-- A path with a text behind it. A list takes it character by character; of the other kinds only a
text goes on with a text. -/
def extended (path : Value) (tail : String) : Except Fault Value :=
  match path with
  | .text s => .ok (.text (s ++ tail))
  | .list items => .ok (.list (items ++ Value.characters tail))
  | .tuple _ => .error (.unsuitable "can only concatenate tuple (not \"str\") to tuple")
  | .bytes _ | .buffer _ => .error (.unsuitable ("can't concat str to " ++ path.typeName))
  | v => .error (.unsuitable ("unsupported operand type(s) for +=: '" ++ v.typeName ++
      "' and 'str'"))

/-- The path and the address as they are logged: the address is the path and the query behind a
question mark. A path that is a list is extended itself. -/
def addressesOf (scope : Scope) : Except Fault (Value × Value) := do
  let path ← pathOf scope
  match scope.query.filter Value.truth with
  | none => return (path, path)
  | some query => do
    let full ← extended path ("?" ++ (← decoded query))
    return (match path with
      | .list _ => full
      | _ => path, full)

/-- Reads a request from its scope, which must have headers. -/
def ofScope (scope : Scope) (trustProxy : Bool) : Except Fault Request := do
  let entries ← match scope.headers with
    | some entries => pure entries
    | none => .error (.missingKey "headers")
  let headers : Headers := ⟨entries⟩
  let (url, fullUrl) ← addressesOf scope
  let forwarded ← if trustProxy then headers.get? "x-forwarded-for" else pure none
  return {
    method := scope.method.getD (.text "GET")
    url := url
    fullUrl := fullUrl
    headers := headers
    httpVersion := scope.httpVersion.getD (.text "1.1")
    ip := forwardedAddress forwarded
    socketAddress := scope.client.headD .absent }

end Request

/-- Takes status and headers from the message that starts the response. -/
def Response.captureStart (r : Response) (m : Message) : Response :=
  { r with statusCode := m.status.getD .absent, headers := ⟨m.headers.getD []⟩ }

end RequestLog
