import RequestLog.Act
import RequestLog.Exchange
import RequestLog.LogLine
import RequestLog.Value.Keyed

/-!
# Applications

An application answers one request. What it does is a tree: it sends a message to the server or
receives one, asks its own surroundings a question, and goes on with what came of it, until it is
done or fails. `run` lets an application do all this with a server.
-/

namespace RequestLog

/-- What an application does, with questions `Q` that are answered by `R`. The outcome of a step
may be a fault, with which the application can go on. -/
inductive App (Q R : Type) where
  | done
  | fail (f : Fault)
  | send (m : Message) (next : Except Fault Unit → App Q R)
  | receive (next : Except Fault Message → App Q R)
  | ask (q : Q) (next : Except Fault R → App Q R)

/-- What happens while a request is served and logged. -/
inductive Event (Q ε : Type) where
  /-- the application asked a question -/
  | asked (q : Q)
  /-- the server was given a message, and took it or failed -/
  | sent (m : Message) (outcome : Except Fault Unit)
  /-- the application received a message, or failed to -/
  | received (outcome : Except Fault Message)
  /-- the clock was read -/
  | clockRead (reading : Int)
  /-- it was asked whether the exchange is to be left out of the log -/
  | skipAsked (request : Request) (response : Response)
  /-- the record was built -/
  | buildAsked (request : Request) (response : Response)
  /-- a batch was given to the sink -/
  | submitted (documents : List Document)
  /-- a line was written to the log -/
  | logged (line : LogLine)
  /-- something happened where a question was answered -/
  | inside (e : ε)

/-- The message that the server took, if the event is that it took one. -/
def Event.taken? {Q ε : Type} : Event Q ε → Option Message
  | .sent m (.ok _) => some m
  | _ => none

/-- The line that was written to the log, if the event is that one was. -/
def Event.line? {Q ε : Type} : Event Q ε → Option LogLine
  | .logged line => some line
  | _ => none

/-- What a client is given: the message that starts the response, if there is one, and the body. -/
structure Answer where
  start : Option Message
  body : Bytes

/-- The answer that the server took among some events. -/
def Answer.ofEvents {Q ε : Type} (events : List (Event Q ε)) : Answer :=
  let taken := events.filterMap Event.taken?
  ⟨taken.find? Message.isStart, taken.flatMap fun m => m.body.getD []⟩

/-- The server and what else surrounds an application. -/
structure Surroundings (ε Q R σ : Type) where
  send : Message → Step σ Unit
  receive : Step σ Message
  answer : Q → Act ε σ R

namespace Surroundings

variable {ε Q R σ : Type}

/-- Gives a message to the server, and says how that went. -/
def sendMessage (w : Surroundings ε Q R σ) (m : Message) :
    Act (Event Q ε) σ (Except Fault Unit) := do
  let outcome ← (Act.ask (w.send m)).attempt
  Act.note (.sent m outcome)
  return outcome

/-- Receives a message from the server. -/
def receiveMessage (w : Surroundings ε Q R σ) : Act (Event Q ε) σ (Except Fault Message) := do
  let outcome ← (Act.ask w.receive).attempt
  Act.note (.received outcome)
  return outcome

/-- Answers a question. -/
def answerQuestion (w : Surroundings ε Q R σ) (q : Q) : Act (Event Q ε) σ (Except Fault R) := do
  Act.note (.asked q)
  ((w.answer q).mapEvents .inside).attempt

end Surroundings

/-- Lets an application run, and says how it ended. -/
def App.run {ε Q R σ : Type} (w : Surroundings ε Q R σ) :
    App Q R → Act (Event Q ε) σ (Except Fault Unit)
  | .done => return .ok ()
  | .fail f => return .error f
  | .send m next => do (next (← w.sendMessage m)).run w
  | .receive next => do (next (← w.receiveMessage)).run w
  | .ask q next => do (next (← w.answerQuestion q)).run w

end RequestLog
