import RequestLog.App
import RequestLog.Format.Builder
import RequestLog.Timing

/-!
# The request logger

The logger stands between a server and an application. It lets every message through as it is,
looks at what the server accepted, and makes one record of each exchange, which it submits to a
sink: when the response has ended, or in immediate mode when the request has arrived. What goes
wrong in logging is reported in the log and does not reach the server or the application, as long
as it can be worded.
-/

namespace RequestLog

/-- How exchanges are logged. -/
structure Logger (σ : Type) where
  /-- the record is made when the request arrives -/
  immediate : Bool := false
  /-- the proxy in front is trusted to give the client's address -/
  trustProxy : Bool := false
  /-- what carries no value is left out of documents -/
  omitAbsent : Bool := false
  /-- reads the clock -/
  clock : σ → Int × σ
  /-- the moment at which tokens are evaluated -/
  now : Moment
  /-- says whether an exchange is left out, if anything does -/
  skip : Option (Request → Response → Step σ Value) := none
  /-- makes the record of an exchange -/
  build : Sight → Act LogLine σ Built
  /-- takes a batch of documents -/
  submit : List Document → Step σ Unit

namespace Logger

variable {ε Q R σ : Type}

/-- Reads the clock. -/
def readClock (l : Logger σ) : Act (Event Q ε) σ Int := fun s =>
  let (reading, s) := l.clock s
  ⟨[.clockRead reading], .ok reading, s⟩

/-- Writes a line to the log. -/
def log (level : Level) (text : String) : Act (Event Q ε) σ Unit :=
  Act.note (.logged ⟨level, .requests, text⟩)

/-- Says whether an exchange is left out of the log. -/
def isSkipped (l : Logger σ) (request : Request) (response : Response) :
    Act (Event Q ε) σ Bool :=
  match l.skip with
  | none => return false
  | some p => do
    Act.note (.skipAsked request response)
    return (← Act.ask (p request response)).truth

/-- Makes the record of an exchange. -/
def builtRecord (l : Logger σ) (request : Request) (response : Response) :
    Act (Event Q ε) σ Built := do
  Act.note (.buildAsked request response)
  (l.build ⟨request, response, l.now⟩).mapEvents .logged

/-- Submits the document of a record. -/
def submitRecord (l : Logger σ) (b : Built) : Act (Event Q ε) σ Unit := do
  log .debug ("log request " ++ (← Act.ofExcept b.literal))
  let documents := [← Act.ofExcept (b.document l.omitAbsent)]
  Act.note (.submitted documents)
  Act.ask (l.submit documents)

/-- Makes and submits the record of an exchange, unless the exchange is left out or nothing in its
record carries a value. -/
def logExchange (l : Logger σ) (request : Request) (response : Response) :
    Act (Event Q ε) σ (Option Built) := do
  if ← l.isSkipped request response then
    log .debug "skip request"
    return none
  let b ← l.builtRecord request response
  if ← Act.ofExcept b.isAbsent then
    log .debug "skip line"
    return none
  l.submitRecord b
  return some b

/-- Logs an exchange, and gives the record that was submitted. A fault is reported in the log. One
that cannot be worded is not, and what its wording fails with goes on in its place. -/
def logRequest (l : Logger σ) (request : Request) (response : Response) :
    Act (Event Q ε) σ (Option Built) := do
  match ← (l.logExchange request response).attempt with
  | .ok b => return b
  | .error f => do
    log .error ("Request logging failed: " ++ (← Act.ofExcept f.message))
    return none

/-- Marks the start of a response unless it is marked. -/
def markStart (l : Logger σ) (r : Response) : Act (Event Q ε) σ Response :=
  match r.started with
  | some _ => return r
  | none => do return r.markedAt (← l.readClock)

/-- Lets a message through to the server, and gives the response as it is then known. Only a
message that the server accepted counts as sent. -/
def forward (l : Logger σ) (w : Surroundings ε Q R σ) (r : Response) (m : Message) :
    Act (Event Q ε) σ (Response × Except Fault Unit) := do
  if m.kind.isNone then return (r, .error (.missingKey "type"))
  if m.isStart then
    let r := (← l.markStart r).captureStart m
    let outcome ← w.sendMessage m
    return (if outcome.isOk then { r with headersSent := .bool true } else r, outcome)
  let outcome ← w.sendMessage m
  return (if outcome.isOk && m.isLast then { r with finished := .bool true } else r, outcome)

/-- Lets an application run behind the logger, and gives the response as it is known at the end,
and how the application ended. -/
def watch (l : Logger σ) (w : Surroundings ε Q R σ) :
    App Q R → Response → Act (Event Q ε) σ (Response × Except Fault Unit)
  | .done, r => return (r, .ok ())
  | .fail f, r => return (r, .error f)
  | .send m next, r => do
    let (r, outcome) ← l.forward w r m
    l.watch w (next outcome) r
  | .receive next, r => do l.watch w (next (← w.receiveMessage)) r
  | .ask q next, r => do l.watch w (next (← w.answerQuestion q)) r

/-- Serves a request by an application, and logs the exchange. What is no request passes
through. -/
def serve (l : Logger σ) (w : Surroundings ε Q R σ) (scope : Scope) (app : App Q R) :
    Act (Event Q ε) σ Unit := do
  match scope.kind with
  | none => Act.fail (.missingKey "type")
  | some kind =>
    if kind.text? != some "http" then
      Act.ofExcept (← app.run w)
    else
      let request ← Act.ofExcept (Request.ofScope scope l.trustProxy)
      let request := request.markedAt (← l.readClock)
      if l.immediate then
        let _ ← l.logRequest request (← l.markStart {})
        Act.ofExcept (← app.run w)
      else
        let (response, outcome) ← l.watch w app {}
        let _ ← l.logRequest request response
        Act.ofExcept outcome

end Logger

end RequestLog
