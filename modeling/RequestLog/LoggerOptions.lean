import RequestLog.Format.Catalog
import RequestLog.Logger
import RequestLog.Settings
import RequestLog.Store.Sink

/-!
# Options of the request logger

What a logger is not told it takes from the settings. Without a sink of its own it makes one for
the target, part by part from its options and the settings; a target that is still incomplete is
noticed with a warning, and the logger works all the same.
-/

namespace RequestLog

/-- What a logger is told. A format or a flag that carries no value is not given. -/
structure LoggerOptions (β : Type) where
  format : Format.Spec β := .value .absent
  target : Store.Target := {}
  immediate : Value := .absent

/-- Something that is noticed while a logger is made. -/
inductive Notice where
  | warning (text : String)
  | logged (line : LogLine)

/-- The text of a warning. -/
def Notice.warning? : Notice → Option String
  | .warning text => some text
  | .logged _ => none

/-- The line that was written to the log, if the notice is that one was. -/
def Notice.line? : Notice → Option LogLine
  | .warning _ => none
  | .logged line => some line

/-- What a logger is made of. -/
structure LoggerPlan (β : Type) where
  target : Option Store.Target
  immediate : Value
  queryLimit : Value
  selected : Selected β

namespace LoggerOptions

variable {β : Type}

/-- The target with what is missing taken from the settings. -/
def targetFor (o : LoggerOptions β) (s : Settings) : Store.Target :=
  { address := (o.target.address.orElse s.address).orElse .absent
    database := (o.target.database.orElse s.database).orElse .absent
    collection := (o.target.collection.orElse s.collection).orElse .absent }

/-- The text that says that a target is incomplete. -/
def incompleteText : String := "RequestLoggerMiddleware options must include url, db and collection"

/-- Notices a target that is incomplete. -/
def checkTarget {σ : Type} (t : Store.Target) : Act Notice σ Unit := do
  if !t.isComplete then
    Act.note (.warning incompleteText)
    Act.note (.logged ⟨.warning, .requests, incompleteText⟩)

/-- The format that is asked for: the given one, else that of the settings. -/
def formatFor (o : LoggerOptions β) (s : Settings) : Format.Spec β :=
  match o.format with
  | .value .absent => .value s.format
  | given => given

/-- Makes the plan of a logger, with a sink that is there already or without. -/
def plan (o : LoggerOptions β) (s : Settings) (hasSink : Bool) :
    Act Notice (Catalog β) (LoggerPlan β) := do
  let target ← if hasSink then pure none
    else do
      checkTarget (o.targetFor s)
      pure (some (o.targetFor s))
  let selected ← (Catalog.lookup (o.formatFor s)).mapEvents .logged
  return {
    target := target
    immediate := if o.immediate.isAbsent then s.immediate else o.immediate
    queryLimit := s.queryLimit
    selected := selected }

end LoggerOptions

/-- The logger of a plan. What is not planned is given: what the builders of a catalog do, the
tokens, the clock, the moment at which tokens are evaluated, and the sink. -/
def LoggerPlan.logger {β σ : Type} (p : LoggerPlan β) (run : β → Builder σ)
    (registry : Registry (Resolver σ)) (clock : σ → Int × σ) (now : Moment)
    (submit : List Document → Step σ Unit) : Logger σ :=
  { immediate := p.immediate.truth, clock, now, build := p.selected.toBuilder run registry, submit }

/-- The query that a logger asks its sink: a limit that is not given is that of the settings. -/
def LoggerPlan.query {β : Type} (p : LoggerPlan β) (q : Store.Query) : Store.Query :=
  { q with limit := q.limit.orElse p.queryLimit }

/-- What a logger does when it is asked for documents: it asks its sink. -/
def LoggerPlan.retrieve {β σ : Type} (p : LoggerPlan β) (access : Store.Access σ)
    (q : Store.Query) : Act Store.Event (Store.Sink σ) (List Value) :=
  Store.Sink.query access (p.query q)

end RequestLog
