import RequestLog.LoggerOptions
import RequestLog.Proofs.Secrecy.Settings
import RequestLog.Proofs.Store.Loop

/-!
# A process that uses the library

A process has a configuration, settings that it made beside those in force, a catalog of formats,
sinks in its event loop, and loggers with a sink each. All sinks talk to one client of the store.
Commands are what a program does with the library, in any order (`Command.perform`), and a run of
commands is told by a report for each of them (`reports`). The address of the store is left open in
the commands: it may be given to the environment, to settings, to those in force, to a logger or to
a sink, and only when the commands are performed it is said which address it is.
-/

namespace RequestLog

open Store

variable {σ β α : Type}

/-- A process. The state of the client is kept once, for all sinks. -/
structure Process (σ β : Type) where
  configuration : Configuration
  made : List Settings
  catalog : Catalog β
  client : σ
  loops : List (Loop Unit)
  loggers : List (Nat × LoggerPlan β)

namespace Process

/-- A value that is the address, or any value whatever. -/
inductive Slot where
  | here
  | value (v : Value)

/-- The value under an address. -/
def Slot.fill (url : String) : Slot → Value
  | here => .text url
  | value v => v

/-- What is given for settings: the address, or any value under any name. -/
inductive Given where
  | here
  | entry (name : String) (v : Value)

/-- The name and the value under an address. -/
def Given.fill (url : String) : Given → String × Value
  | here => (Settings.Field.name .address, .text url)
  | entry name v => (name, v)

/-- Something that happens in a process: in the store, or that something is noticed, in the log or
with a warning. -/
inductive Happening where
  | store (e : Store.Event)
  | notice (n : Notice)

/-- What is noticed, if that is what happens: a warning, or a line in the log, whoever wrote it. -/
def Happening.notice? : Happening → Option Notice
  | store e => e.line?.map .logged
  | notice n => some n

/-- What a command comes to if it does not fail. -/
inductive Answer where
  | done
  | summary (fields : Fields)
  | reply (reply : Reply)
  | found (documents : List Value)

/-- What a program does with the library. Sinks, loggers and settings are named by their numbers;
without a number the settings in force are meant. -/
inductive Command (β : Type) where
  | setVariable (name : String) (text : Option String)
  | setAddress
  | make (values : List Given)
  | configure (values : List Given)
  | reset
  | summarize (settings : Option Nat)
  | sink (address : Slot) (database collection : Value)
  | logger (format : Format.Spec β) (address : Slot) (database collection immediate : Value)
      (settings own : Option Nat)
  | turn (sink : Nat) (turn : Turn)
  | submitIdle (sink : Nat) (documents : List Document)
  | insert (sink : Nat) (documents : List Document)
  | query (sink : Nat) (q : Query)
  | retrieve (logger : Nat) (q : Query)

end Process

namespace Store.Loop

/-- The loop with a state of the client. -/
def holding (l : Loop Unit) (client : σ) : Loop σ :=
  ⟨⟨l.sink.target, client, l.sink.tasks, l.sink.pending, l.sink.queue⟩, l.drains⟩

/-- The loop without the state of its client. -/
def released (l : Loop σ) : Loop Unit :=
  ⟨⟨l.sink.target, (), l.sink.tasks, l.sink.pending, l.sink.queue⟩, l.drains⟩

/-- The turn begins an insert, which needs the settings in force. -/
def begins (l : Loop Unit) : Turn → Bool
  | .job (.start i) => l.sink.isConfigured && l.sink.tasks[i]?.any fun task =>
      !task.cancelRequested && match task.stage with
        | .scheduled => true
        | _ => false
  | _ => false

/-- Works on the sink of a loop. -/
def onSink (m : Act Store.Event (Sink σ) α) : Act Store.Event (Loop σ) α :=
  Act.onPart Loop.sink (fun s l => { l with sink := s }) m

/-- The task of a job ends with a fault before it has begun its insert. -/
def failJob (j : Job) (f : Fault) : Act Store.Event (Loop σ) Unit :=
  onSink (Act.modify fun s =>
    Sink.advance j.task (.ended (.failed f)) { s with queue := s.queue.erase j })

end Store.Loop

namespace Process

/-- Works on the configuration. -/
def onConfiguration (m : Act LogLine Configuration α) : Act Happening (Process σ β) α :=
  (m.mapEvents fun line => .notice (.logged line)).onPart Process.configuration
    fun c p => { p with configuration := c }

/-- Works on the catalog. -/
def onCatalog (m : Act Notice (Catalog β) α) : Act Happening (Process σ β) α :=
  (m.mapEvents .notice).onPart Process.catalog fun c p => { p with catalog := c }

/-- Works on the loop of a number with the client. -/
def onLoop (n : Nat) (l : Loop Unit) (m : Act Store.Event (Loop σ) α) :
    Act Happening (Process σ β) α :=
  (m.mapEvents .store).onPart (fun p => l.holding p.client) fun l p =>
    { p with client := l.sink.client, loops := p.loops.set n l.released }

/-- The settings of a number, or those in force. -/
def settingsOf (number : Option Nat) : Act Happening (Process σ β) Settings := do
  let p ← Act.get
  match number.bind fun n => p.made[n]? with
  | some s => return s
  | none => return (← onConfiguration Configuration.settings).2

/-- The time that the settings in force allow to find a server, where it is needed. -/
def timeoutIf (needed : Bool) : Act Happening (Process σ β) Value := do
  if needed then return (← onConfiguration Configuration.settings).2.selectionTimeout
  return .absent

/-- Does something with the loop of a number, if there is one. -/
def withLoop (n : Nat) (f : Loop Unit → Act Happening (Process σ β) Answer) :
    Act Happening (Process σ β) Answer := do
  match (← Act.get).loops[n]? with
  | none => return .done
  | some l => f l

/-- Does something with the sink of a number and waits for it. A sink whose target is incomplete
does not get to ask for the settings. -/
def withSink (client : Client σ) (n : Nat) (m : Access σ → Act Store.Event (Sink σ) Answer) :
    Act Happening (Process σ β) Answer :=
  withLoop n fun l => do
    let timeout ← timeoutIf l.sink.isConfigured
    onLoop n l (Loop.onSink (m ⟨client, timeout⟩))

/-- Takes a turn of a loop with the time that is allowed to find a server. If it could not be known,
the task whose insert was to begin ends with that fault. -/
def takeWith (client : Client σ) (n : Nat) (l : Loop Unit) (turn : Turn) :
    Except Fault Value → Act Happening (Process σ β) Unit
  | .ok timeout => onLoop n l (turn.take ⟨client, timeout⟩)
  | .error f =>
    match turn.job? with
    | some j => onLoop n l (Loop.failJob j f)
    | none => pure ()

/-- Takes a turn of the loop of a number, if it is possible. A task whose insert begins asks for the
settings in force. -/
def takeTurn (client : Client σ) (n : Nat) (turn : Turn) : Act Happening (Process σ β) Answer :=
  withLoop n fun l => do
    if !turn.isPossible l then return .done
    takeWith client n l turn (← (timeoutIf (l.begins turn)).attempt)
    return .done

/-- Submits a batch with the sink of a number while no event loop runs. -/
def submitIdle (n : Nat) (documents : List Document) : Act Happening (Process σ β) Answer :=
  withLoop n fun l => onLoop n l do
    let _ ← Loop.onSink (Sink.submit false documents)
    return .done

/-- Inserts documents with the sink of a number. -/
def insert (client : Client σ) (n : Nat) (documents : List Document) :
    Act Happening (Process σ β) Answer :=
  withSink client n fun access => return .reply (← Sink.insertNow access documents)

/-- Finds documents with the sink of a number. -/
def find (client : Client σ) (n : Nat) (q : Query) : Act Happening (Process σ β) Answer :=
  withSink client n fun access => return .found (← Sink.query access q)

/-- Adds a loop with a sink for a target. -/
def addLoop (t : Target) (p : Process σ β) : Process σ β :=
  { p with loops := p.loops ++ [⟨{ target := t, client := () }, []⟩] }

/-- Adds a logger, with the sink of a number unless its plan is for one of its own. -/
def addLogger (sink : Nat) (plan : LoggerPlan β) (p : Process σ β) : Process σ β :=
  match plan.target with
  | none => { p with loggers := p.loggers ++ [(sink, plan)] }
  | some t => addLoop t { p with loggers := p.loggers ++ [(p.loops.length, plan)] }

namespace Command

/-- Does what is commanded, under an address. -/
def perform (client : Client σ) (url : String) :
    Command β → Act Happening (Process σ β) Answer
  | setVariable name text => do
    onConfiguration (Configuration.Command.perform (.setVariable name text))
    return .done
  | setAddress => do
    onConfiguration
      (Configuration.Command.perform (.setVariable Settings.addressVariable (some url)))
    return .done
  | make values => do
    let s ← onConfiguration do
      Settings.make (← Act.get).environment (values.map (·.fill url))
    Act.modify fun p => { p with made := p.made ++ [s] }
    return .done
  | configure values => do
    let _ ← onConfiguration (Configuration.configure (values.map (·.fill url)))
    return .done
  | reset => do
    onConfiguration (Act.modify Configuration.reset)
    return .done
  | summarize settings => do
    let s ← settingsOf settings
    return .summary (← Act.ofExcept s.summary)
  | sink address database collection => do
    Act.modify (addLoop ⟨address.fill url, database, collection⟩)
    return .done
  | logger format address database collection immediate settings own => do
    let s ← settingsOf settings
    let options : LoggerOptions β :=
      { format, target := ⟨address.fill url, database, collection⟩, immediate }
    let plan ← onCatalog (options.plan s own.isSome)
    Act.modify (addLogger (own.getD 0) plan)
    return .done
  | turn n t => takeTurn client n t
  | submitIdle n documents => Process.submitIdle n documents
  | insert n documents => Process.insert client n documents
  | query n q => find client n q
  | retrieve k q => do
    match (← Act.get).loggers[k]? with
    | none => return .done
    | some (n, plan) => find client n (plan.query q)

end Command

/-- What was seen of one command: what happened, and what it came to. -/
structure Report where
  happenings : List Happening
  result : Except Fault Answer

/-- The reports of commands that are performed one after another, failed or not, and the process
after them. -/
def run (client : Client σ) (url : String) :
    List (Command β) → Process σ β → List Report × Process σ β
  | [], p => ([], p)
  | command :: rest, p =>
    let o := command.perform client url p
    let later := run client url rest o.state
    (⟨o.events, o.result⟩ :: later.1, later.2)

/-- What was noticed in a run, in order. -/
def noticed (reports : List Report) : List Notice :=
  reports.flatMap fun r => r.happenings.filterMap Happening.notice?

end Process

end RequestLog
