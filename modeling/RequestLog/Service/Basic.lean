import RequestLog.Logger
import RequestLog.LoggerOptions
import RequestLog.Log.Setup
import RequestLog.Service.Routes

/-!
# The service

The service serves stored records and logs its own traffic through the request logger. Requests
for its health are left out of the log. A fault that no route has answered for is reported,
answered with a general failure, and passed on to the server; one that cannot be worded is neither
reported nor answered.
-/

namespace RequestLog

/-- A service as it is set up. -/
structure Service where
  settings : Settings
  log : Log.Setup
  /-- an answer to a request that failed says how it failed -/
  debug : Bool
  routes : List Service.Route

namespace Service

variable {β σ : Type}

/-! ### Setting up -/

/-- Sets up the log as the settings say. -/
def setupLog (s : Settings) : Except Fault Log.Setup := do
  let channels ← Log.channelNames s.debugChannels
  let (r, setup) := Log.Setup.install
    { level := s.logLevel, format := s.lineFormat, channels := .list (channels.map .text) } {}
  r
  return setup

/-- The environment asks for debugging. -/
def isDebugging (env : Settings.Environment) : Bool := (env.get? "DEBUG").any (· ≠ "")

/-- Sets up a service, which may have other routes beside its own. -/
def setUp (env : Settings.Environment) (s : Settings) (others : List Route := []) :
    Except Fault Service := do
  return { settings := s, log := ← setupLog s, debug := isDebugging env
           routes := Route.all s.queryLimit ++ others }

/-- The line that reports the start of the service. -/
def startingLine : LogLine := ⟨.info, .service, "Starting logmongo API..."⟩

/-- The line that reports the end of the service. -/
def stoppingLine : LogLine := ⟨.info, .service, "Shutting down logmongo API..."⟩

/-! ### The logger of a service -/

/-- The path whose requests are left out of the log, with everything that begins like it. -/
def unloggedPath : String := "/health"

/-- What the logger of a service is told. -/
def loggerOptions (s : Settings) : LoggerOptions β :=
  { format := .value s.format, immediate := s.immediate }

/-- What a service keeps between requests: its catalog, and its logger once it has been made. -/
structure Kept (β σ : Type) where
  catalog : Catalog β := Catalog.builtin
  logger : Option (Logger σ) := none

/-- The logger of a service. It is made, as `make` says by its plan, when it is first asked for,
and asked for again after a plan that came to nothing. -/
def readyLogger (service : Service) (make : LoggerPlan β → Logger σ) :
    Act Notice (Kept β σ) (Logger σ) := do
  match (← Act.get).logger with
  | some l => return l
  | none => do
    let plan ← ((loggerOptions service.settings).plan service.settings true).onPart
      Kept.catalog fun catalog k => { k with catalog := catalog }
    let l := { make plan with
      skip := some fun request _ s => ((request.urlBegins unloggedPath).map .bool, s) }
    Act.modify fun k => { k with logger := some l }
    return l

/-! ### Serving -/

/-- The line that reports a fault of this wording that no route has answered for. -/
def unhandledLine (wording : String) : LogLine :=
  ⟨.error, .service, "Unhandled exception: " ++ wording⟩

/-- The answer to a request that failed. Only for debugging it says how. -/
def failure (debug : Bool) (wording : String) : Handler :=
  respondJson 500 [] (.mapping [("error", .text "Internal server error"),
    ("detail", if debug then .text wording else .absent), ("code", .text "INTERNAL_ERROR")])

/-- Serves a request through the logger. -/
def handle {ε : Type} (service : Service) (l : Logger σ) (w : Surroundings ε Question Reply σ)
    (scope : Scope) : Act (Event Question ε) σ Unit := fun s =>
  let served := l.serve w scope (route service.routes scope) s
  match served.result with
  | .ok _ => served
  | .error f =>
    let answered : Act (Event Question ε) σ Unit := do
      let wording ← Act.ofExcept f.message
      Act.note (.logged (unhandledLine wording))
      if (Answer.ofEvents served.events).start.isNone then
        let _ ← (failure service.debug wording).run w
      Act.fail f
    let last := answered served.state
    ⟨served.events ++ last.events, last.result, last.state⟩

end Service

end RequestLog
