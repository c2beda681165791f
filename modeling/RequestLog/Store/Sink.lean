import RequestLog.Store.Client

/-!
# The sink

A sink takes batches of documents and inserts each by a task of its own, which nobody waits for.
Jobs run in the order in which they were queued: the start of a task, its going on after it has
waited, and the report when it has ended. What a task came to is reported once, in the log; a
failed insert is not tried again. A drain looks for tasks that have not been reported, and waits for
those that it found before it looks again.
-/

namespace RequestLog.Store

/-- What a task came to. -/
inductive Ending where
  | inserted
  | failed (f : Fault)
  | cancelled

/-- What a task comes to by the result of its insert. -/
def Ending.of : Except Fault Reply → Ending
  | .ok _ => .inserted
  | .error f => .failed f

/-- What a cancelled task comes to by the result of closing its connection, which must not fail. -/
def Ending.closed : Except Fault Reply → Ending
  | .ok _ => .cancelled
  | .error f => .failed f

/-- How far a task is. -/
inductive Stage where
  | scheduled
  | waiting (ticket : Nat)
  | ended (e : Ending)

/-- How far a task is when its insert has been begun. -/
def Stage.begun : Except Fault Progress → Stage
  | .ok (.waiting ticket) => .waiting ticket
  | .ok (.ended reply) => .ended (.of (.ok reply))
  | .error f => .ended (.of (.error f))

/-- The insert of one batch. -/
structure Task where
  documents : List Document
  stage : Stage := .scheduled
  cancelRequested : Bool := false

/-- Something that is to be done for the task of a number. -/
inductive Job where
  | start (task : Nat)
  | resume (task : Nat)
  | report (task : Nat)
  deriving DecidableEq, Repr

/-- The number of the task that a job is for. -/
def Job.task : Job → Nat
  | start i | resume i | report i => i

/-- What is to be done after a task has come to a stage: its end is reported. -/
def Stage.followUp (i : Nat) : Stage → List Job
  | ended _ => [.report i]
  | scheduled | waiting _ => []

/-- The task has ended. -/
def Task.isEnded (t : Task) : Bool :=
  match t.stage with
  | .ended _ => true
  | _ => false

/-- The task waits for the store. -/
def Task.isWaiting (t : Task) : Bool :=
  match t.stage with
  | .waiting _ => true
  | _ => false

namespace Task

variable {σ : Type}

/-- Starts the insert of a task, unless it has been cancelled before, and says how far it comes. -/
def start (access : Access σ) (target : Target) (t : Task) : Act Event σ Stage := do
  if t.cancelRequested then return .ended .cancelled
  return .begun (← (beginInsert access target t.documents).attempt)

/-- Goes on with a task that has waited: ends its insert, or closes its connection if it has been
cancelled. -/
def resume (access : Access σ) (target : Target) (t : Task) (ticket : Nat) :
    Act Event σ Stage := do
  if t.cancelRequested then
    return .ended (.closed (← (perform access.client .close).attempt))
  let outcome ← (perform access.client (.await ticket)).attempt
  return .ended (.of (← (endInsert access.client target t.documents outcome).attempt))

end Task

/-- The line that reports a cancelled task. -/
def cancelledLine : LogLine := ⟨.warning, .store, "Record insert was cancelled"⟩

/-- The line that reports a failed task. -/
def failedLine (t : Target) (f : Fault) : Except Fault LogLine := do
  return ⟨.error, .store,
    "Failed to persist request record to " ++ (← t.label) ++ ": " ++ (← f.message)⟩

/-- The line that reports what a task came to. A failed one is not told of if its target cannot be
named, or its fault not be worded. -/
def Ending.line? (t : Target) : Ending → Option LogLine
  | inserted => none
  | cancelled => some cancelledLine
  | failed f => (failedLine t f).toOption

/-- A drain waits for the tasks that had not been reported when it looked, or it has returned. -/
inductive Drain where
  | waiting (tasks : List Nat)
  | returned
  deriving DecidableEq, Repr

/-- A sink with the state of its client: its tasks in order of submission, the tasks that have not
been reported, and the jobs to be done. -/
structure Sink (σ : Type) where
  target : Target
  client : σ
  tasks : List Task := []
  pending : List Nat := []
  queue : List Job := []

namespace Sink

variable {σ : Type}

/-- Works with the client. -/
def onClient {α : Type} (m : Act Event σ α) : Act Event (Sink σ) α :=
  Act.onPart Sink.client (fun c s => { s with client := c }) m

/-- The sink's target is complete. -/
def isConfigured (s : Sink σ) : Bool := s.target.isComplete

/-- Changes the task of a number. -/
def updateTask (i : Nat) (f : Task → Task) (s : Sink σ) : Sink σ :=
  { s with tasks := s.tasks.modify i f }

/-- Adds a job at the end. -/
def enqueue (j : Job) (s : Sink σ) : Sink σ := { s with queue := s.queue ++ [j] }

/-- Submits a batch, which is not inserted now. Something has to run that will insert it. -/
def submit (running : Bool) (documents : List Document) : Act Event (Sink σ) Nat := do
  if !running then Act.fail .nothingRuns
  let s ← Act.get
  let number := s.tasks.length
  Act.modify fun s => enqueue (.start number)
    { s with tasks := s.tasks ++ [{ documents := documents }], pending := s.pending ++ [number] }
  return number

/-- A task has come to a stage. -/
def advance (i : Nat) (stage : Stage) (s : Sink σ) : Sink σ :=
  { s with
    tasks := s.tasks.modify i fun t => { t with stage := stage }
    queue := s.queue ++ stage.followUp i }

/-- Works on a task with the client. -/
def workOn (i : Nat) (work : Act Event σ Stage) : Act Event (Sink σ) Unit := do
  let stage ← onClient work
  Act.modify (advance i stage)

/-- Reports a task that has ended. -/
def reportTask (i : Nat) (e : Ending) : Act Event (Sink σ) Unit := do
  Act.modify fun s => { s with pending := s.pending.filter (· != i) }
  match e.line? (← Act.get).target with
  | some line => Act.note (.log line)
  | none => pure ()

/-- Does a job. A job that does not fit the stage of its task does nothing. -/
def runJob (access : Access σ) (j : Job) : Act Event (Sink σ) Unit := do
  let s ← Act.get
  match s.tasks[j.task]? with
  | none => pure ()
  | some t =>
    match j, t.stage with
    | .start i, .scheduled => workOn i (t.start access s.target)
    | .resume i, .waiting ticket => workOn i (t.resume access s.target ticket)
    | .report i, .ended e => reportTask i e
    | _, _ => pure ()

/-- Takes a job out of the queue and does it. -/
def runQueued (access : Access σ) (j : Job) : Act Event (Sink σ) Unit := do
  Act.modify fun s => { s with queue := s.queue.erase j }
  runJob access j

/-- Does queued jobs one after another. -/
def runJobs (access : Access σ) : List Job → Act Event (Sink σ) Unit
  | [] => pure ()
  | j :: rest => do
    runQueued access j
    runJobs access rest

/-- Does the jobs that are queued now. -/
def runQueue (access : Access σ) : Act Event (Sink σ) Unit := do
  runJobs access (← Act.get).queue

/-- Does jobs until none is queued. The jobs queued by those that are queued now are reports, which
queue no more. -/
def settle (access : Access σ) : Act Event (Sink σ) Unit := do
  runQueue access
  runQueue access

/-- Asks for a task to be cancelled, and says whether it had not ended. A task that waits goes on,
so that it ends. -/
def cancel (i : Nat) : Act Event (Sink σ) Bool := do
  let s ← Act.get
  match s.tasks[i]? with
  | none => return false
  | some t =>
    if t.isEnded then return false
    Act.modify (updateTask i fun t => { t with cancelRequested := true })
    match t.stage with
    | .waiting _ => if !s.queue.contains (.resume i) then Act.modify (enqueue (.resume i))
    | _ => pure ()
    return true

/-- The tasks that wait. -/
def waitingTasks (s : Sink σ) : List Nat :=
  (List.range s.tasks.length).filter fun i => s.tasks[i]?.any Task.isWaiting

/-- Lets all tasks that wait go on. -/
def release : Act Event (Sink σ) Unit := do
  Act.modify fun s => (s.waitingTasks.filter fun i => !s.queue.contains (.resume i)).foldl
    (fun s i => enqueue (.resume i) s) s

/-- A drain looks: it returns if every task has been reported, and waits for those that have not
otherwise. -/
def look (s : Sink σ) : Drain := if s.pending.isEmpty then .returned else .waiting s.pending

/-- The task of a number has ended, and is no more to be reported. -/
def isSettled (s : Sink σ) (i : Nat) : Bool :=
  s.tasks[i]?.any Task.isEnded && !s.queue.contains (.report i)

/-- A drain that waits looks again when all tasks that it waits for are settled. -/
def lookAgain (s : Sink σ) : Drain → Drain
  | .waiting tasks => if tasks.all s.isSettled then s.look else .waiting tasks
  | .returned => .returned

/-- Waits for the submitted batches, and says whether all of them have been reported. Tasks that
wait for the store keep it waiting. -/
def drain (access : Access σ) : Act Event (Sink σ) Bool := do
  let first := (← Act.get).look
  if first = .returned then return true
  settle access
  return decide ((← Act.get).lookAgain first = .returned)

/-- Ends the work of the sink: what is queued now is done, and a task that then has not ended is
cancelled. -/
def shutDown (access : Access σ) : Act Event (Sink σ) Unit := do
  runQueue access
  (List.range (← Act.get).tasks.length).forM fun i => discard (cancel i)
  settle access

/-- Inserts documents and waits for it. -/
def insertNow (access : Access σ) (documents : List Document) : Act Event (Sink σ) Reply := do
  let target := (← Act.get).target
  onClient (insert access target documents)

/-- Finds documents. -/
def query (access : Access σ) (q : Query) : Act Event (Sink σ) (List Value) := do
  let target := (← Act.get).target
  onClient (find access target q)

end Sink

end RequestLog.Store
