import RequestLog.Credentials
import RequestLog.Number.Numeral
import RequestLog.Timing
import RequestLog.Value.Literal

/-!
# Built-in tokens

A token is a named piece of an exchange. The built-in ones look at the exchange alone, at the
argument of the placeholder and at the moment of evaluation. Nothing of a response shows before
its headers have been sent, the time it took apart.
-/

namespace RequestLog

/-- What a token is evaluated on: the exchange, and the moment of evaluation. -/
structure Sight where
  request : Request
  response : Response
  now : Moment

namespace Token

/-- The built-in tokens. -/
inductive Builtin where
  | url
  | method
  | responseTime
  | date
  | status
  | referrer
  | remoteAddress
  | remoteUser
  | httpVersion
  | userAgent
  | requestHeader
  | responseHeader
  deriving DecidableEq, Repr

namespace Builtin

/-- The built-in tokens in the order in which they are registered. -/
def all : List Builtin :=
  [url, method, responseTime, date, status, referrer, remoteAddress, remoteUser, httpVersion,
    userAgent, requestHeader, responseHeader]

/-- The name that placeholders use. -/
def name : Builtin → String
  | url => "url"
  | method => "method"
  | responseTime => "response-time"
  | date => "date"
  | status => "status"
  | referrer => "referrer"
  | remoteAddress => "remote-addr"
  | remoteUser => "remote-user"
  | httpVersion => "http-version"
  | userAgent => "user-agent"
  | requestHeader => "req"
  | responseHeader => "res"

/-- The decimal places that an argument asks for; three without one. -/
def placesOf (argument : Option String) : Except Fault Value :=
  match argument with
  | none => .ok (.int 3)
  | some s =>
    match Numeral.readInt s with
    | .ok n => .ok (.int n)
    | .error .malformed => .error (.integerMalformed s)
    | .error (.tooLong digits) => .error (.integerTooLong digits)

/-- All values of a header, joined; absent when the header or its name is missing. -/
def joined (headers : Headers) (field : Option String) : Except Fault Value :=
  match field with
  | none | some "" => .ok .absent
  | some name => do
    match ← headers.getAll name with
    | [] => return .absent
    | values => return .text (", ".intercalate values)

/-- The version of the protocol as a number: what stands before and after the first point, and a
zero where nothing stands after it. -/
def versionOf (v : Value) : Except Fault Value :=
  match v with
  | .text s =>
    let (major, minor) := (Text.cutAt '.' s.toList).getD (s.toList, [])
    let numeral := String.ofList (major ++ '.' :: (if minor = [] then ['0'] else minor))
    match Numeral.readFloat numeral with
    | some x => .ok (.float x)
    | none => .error (.fractionMalformed numeral)
  | .bytes _ | .buffer _ => .error .bytesExpected
  | v => .error (.noOperation v.typeName "partition")

/-- The name in the credentials of an authorization header. -/
def userOf (header : Option String) : Value :=
  match header.bind Credentials.ofHeader? with
  | some c => .text c.name
  | none => .absent

/-- What a built-in token gives. -/
def evaluate (token : Builtin) (sight : Sight) (argument : Option String) : Except Fault Value :=
  let request := sight.request
  let response := sight.response
  match token with
  | url => .ok (request.fullUrl.orElse request.url)
  | method => .ok request.method
  | responseTime => do Timing.responseTime request response (← placesOf argument)
  | date => .ok (.moment sight.now)
  | status => .ok (if response.headersSent.truth then response.statusCode else .absent)
  | referrer => do
    let first := Value.ofText? (← request.headers.get? "referer")
    if first.truth then return first
    return .ofText? (← request.headers.get? "referrer")
  | remoteAddress => .ok request.clientAddress
  | remoteUser => do return userOf (← request.headers.get? "authorization")
  | httpVersion => versionOf request.httpVersion
  | userAgent => do return .ofText? (← request.headers.get? "user-agent")
  | requestHeader => joined request.headers argument
  | responseHeader =>
    if response.headersSent.truth then joined response.headers argument else .ok .absent

end Builtin

end Token

end RequestLog
