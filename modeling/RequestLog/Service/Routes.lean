import RequestLog.App
import RequestLog.LogLine
import RequestLog.Service.HostName
import RequestLog.Service.Page

/-!
# Routes of the service

The service answers requests for stored records and for its own health, both only when they are
asked for with `GET`, and those that other routes are made for. Its own routes are applications that
ask the store or the sink and send one response. A store that fails is answered for; any other fault
ends the application.
-/

namespace RequestLog.Service

/-- What the service asks its surroundings. -/
inductive Question where
  /-- the records that a query finds -/
  | records (q : Store.Query)
  /-- whether the sink has a target, and how many batches it has not reported -/
  | condition
  /-- that a line is written to the log -/
  | log (line : LogLine)

/-- What the surroundings answer. -/
inductive Reply where
  | records (documents : List Value)
  | condition (configured pending : Value) (now : Moment)
  | done

/-- An application of the service. -/
abbrev Handler := App Question Reply

/-! ### Responses -/

/-- The bytes of an ASCII text. -/
def ascii (s : String) : Bytes := s.toList.map fun c => UInt8.ofNat c.toNat

/-- Sends a response: its start, and its body in one piece. -/
def respond (status : Int) (headers : List (Bytes × Bytes)) (body : Bytes) : Handler :=
  .send { kind := some (.text "http.response.start"), status := some (.int status),
          headers := some headers } fun
    | .error f => .fail f
    | .ok _ =>
      .send { kind := some (.text "http.response.body"), body := some body } fun
        | .error f => .fail f
        | .ok _ => .done

/-- The header that tells the length of a body. -/
def lengthHeader (body : Bytes) : Bytes × Bytes :=
  (ascii "content-length", ascii (toString body.length))

/-- Sends a value as JSON, behind other headers. -/
def respondJson (status : Int) (headers : List (Bytes × Bytes)) (v : Value) : Handler :=
  let body := Text.Utf8.encode (Json.write v)
  respond status (headers ++ [lengthHeader body, (ascii "content-type", ascii "application/json")])
    body

/-- Sends a short explanation. -/
def respondDetail (status : Int) (headers : List (Bytes × Bytes)) (detail : String) : Handler :=
  respondJson status headers (.mapping [("detail", .text detail)])

/-- Sends the client to another address. -/
def redirect (location : String) : Handler :=
  respond 307 [lengthHeader [], (ascii "location", ascii location)] []

/-! ### Records -/

/-- The line that reports a store that failed with a fault of this wording. -/
def queryFailed (wording : String) : LogLine :=
  ⟨.error, .queries, "Record query failed: " ++ wording⟩

/-- What is wrong with a parameter of a query, and what was given for it. -/
def issueShown (fields : List (String × String)) (issue : Issue) (name : String) : Value :=
  .mapping ([("type", .text issue.name), ("loc", .list [.text "query", .text name]),
      ("msg", .text issue.advice), ("input", .ofText? (Text.Percent.last? name fields))] ++
    (issue.bound?.map fun bound => ("ctx", .mapping [bound])).toList)

/-- What is wrong with the parameters of a query. -/
def issues (fields : List (String × String)) (found : List (Issue × String)) : Value :=
  .mapping [("detail", .list (found.map fun i => issueShown fields i.1 i.2))]

/-- Answers with the records that some parameters look for. -/
def listRecords (usualLimit : Value) (p : Parameters) : Handler :=
  let q := p.query usualLimit
  .ask (.records q) fun
    | .ok (.records documents) =>
      match page documents q.limit p.skip with
      | .ok v => respondJson 200 [] v
      | .error f => .fail f
    | .ok _ => .done
    | .error f =>
      if f.isStoreFault then
        match f.message with
        | .ok wording =>
          .ask (.log (queryFailed wording)) fun _ => respondDetail 503 [] "Record store unavailable"
        | .error g => .fail g
      else .fail f

/-- The bytes of the query in a scope. -/
def queryBytes (scope : Scope) : Bytes := ((scope.query.bind Value.bytes?).getD [])

/-- Answers a query for records. -/
def records (usualLimit : Value) (scope : Scope) : Handler :=
  let query := (Text.Latin.decode (queryBytes scope)).toList
  match Parameters.read query with
  | .ok p => listRecords usualLimit p
  | .error found => respondJson 422 [] (issues (Text.Percent.fields .kept query) found)

/-! ### Health -/

/-- Answers how the service is. -/
def health : Handler :=
  .ask .condition fun
    | .ok (.condition configured pending now) =>
      match condition configured pending now with
      | .ok v => respondJson 200 [] v
      | .error f => .fail f
    | .ok _ => .done
    | .error f => .fail f

/-! ### Routing -/

/-- A path, the methods with which it can be asked for, and the application that answers then. -/
structure Route where
  path : String
  methods : List String := ["GET"]
  handler : Scope → Handler

/-- The routes of the service. -/
def Route.all (usualLimit : Value) : List Route :=
  [{ path := "/logs", handler := records usualLimit },
    { path := "/health", handler := fun _ => health }]

/-- The route answers for a path; a line end at the end of the path does not count. -/
def Route.answersFor (r : Route) (path : String) : Bool := path == r.path || path == r.path ++ "\n"

/-- The path without the slashes at its end, if there are any and it is more than a slash. -/
def withoutSlashes? (path : String) : Option String :=
  let cs := path.toList
  if cs = ['/'] then none
  else if cs.getLast? = some '/' then
    some (String.ofList (cs.reverse.dropWhile (· = '/')).reverse)
  else none

/-- The host that the first header of that name gives, if it is well formed. -/
def namedHost? (scope : Scope) : Option String :=
  let named := ((scope.headers.getD []).find? fun e => e.1 = ascii "host").map
    fun e => Text.Latin.decode e.2
  named.filter fun name => HostName.isValid name.toList

/-- The address of a path on the host that the request names, or else on the server itself. The
query goes with it and has to be a text. -/
def locationOf (scope : Scope) (path : String) : Except Fault String := do
  let host := ((namedHost? scope).or scope.server).map fun name => "http://" ++ name
  let query ← (Text.Utf8.decode (queryBytes scope)).mapError Fault.undecodable
  return Text.Percent.quoteAddress
    (host.getD "" ++ path ++ if query.isEmpty then "" else "?" ++ query)

/-- Answers a request by the first route for its path and its method. A path that has routes, but
none for the method, is not answered for, nor is one that has none; but a path with slashes at its
end leads to the path without them, if there are routes for that. -/
def route (routes : List Route) (scope : Scope) : Handler :=
  let path := (scope.path.bind Value.text?).getD ""
  let method := (scope.method.bind Value.text?).getD ""
  match routes.find? fun r => r.answersFor path && r.methods.contains method with
  | some r => r.handler scope
  | none =>
    match routes.find? fun r => r.answersFor path with
    | some r => respondDetail 405 [(ascii "allow", ascii (", ".intercalate r.methods))]
        "Method Not Allowed"
    | none =>
      match withoutSlashes? path with
      | some shorter =>
        if routes.any fun r => r.answersFor shorter then
          match locationOf scope shorter with
          | .ok location => redirect location
          | .error f => .fail f
        else respondDetail 404 [] "Not Found"
      | none => respondDetail 404 [] "Not Found"

end RequestLog.Service
