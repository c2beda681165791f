import RequestLog.Proofs.Act
import RequestLog.Store.Sink

/-!
# A sink in an event loop

In an event loop batches are submitted to a sink, its jobs are done, the store answers, tasks are
cancelled, and calls of `drain` look at the sink. Each of these is a turn, in which nothing else
happens. Turns come in any order in which each of them is possible (`History`): a queued job may be
done at any time, before or after any other, and a drain that waits looks again at some time after
its tasks are settled. What happened is known by entries, one for each turn.
-/

namespace RequestLog.Store

variable {σ : Type}

/-- A turn of the event loop. -/
inductive Turn where
  | submit (documents : List Document)
  | job (j : Job)
  | answer (task : Nat)
  | cancel (task : Nat)
  | drain
  | wake (drain : Nat)

/-- A sink in an event loop, and the drains that were called, in order. -/
structure Loop (σ : Type) where
  sink : Sink σ
  drains : List Drain := []

namespace Turn

/-- The turn is possible: the job is queued, the task waits and has no answer yet, or all tasks that
the drain waits for are settled. -/
def isPossible (l : Loop σ) : Turn → Bool
  | submit _ | cancel _ | drain => true
  | job j => l.sink.queue.contains j
  | answer i => l.sink.tasks[i]?.any Task.isWaiting && !l.sink.queue.contains (.resume i)
  | wake n =>
    match l.drains[n]? with
    | some (.waiting tasks) => tasks.all l.sink.isSettled
    | _ => false

/-- What the turn does to the sink. -/
def work (access : Access σ) : Turn → Act Event (Sink σ) Unit
  | submit documents => do let _ ← Sink.submit true documents
  | job j => Sink.runQueued access j
  | answer i => Act.modify (Sink.enqueue (.resume i))
  | cancel i => do let _ ← Sink.cancel i
  | drain | wake _ => pure ()

/-- The drains after the turn: a new one has looked, or one that waited has looked again. -/
def look (s : Sink σ) (drains : List Drain) : Turn → List Drain
  | drain => drains ++ [s.look]
  | wake n => drains.modify n s.lookAgain
  | _ => drains

/-- Takes the turn. -/
def take (access : Access σ) (turn : Turn) : Act Event (Loop σ) Unit := do
  Act.onPart Loop.sink (fun s l => { l with sink := s }) (turn.work access)
  Act.modify fun l => { l with drains := turn.look l.sink l.drains }

/-- The batch that is submitted in the turn. -/
def batch? : Turn → Option (List Document)
  | submit documents => some documents
  | _ => none

/-- The job that is done in the turn. -/
def job? : Turn → Option Job
  | job j => some j
  | _ => none

end Turn

/-- A turn that was taken, with the client's state before it and the events in it. -/
structure Entry (σ : Type) where
  turn : Turn
  client : σ
  events : List Event

/-- The entries are those of the turns that led from a new sink to here. -/
inductive History (access : Access σ) (target : Target) : List (Entry σ) → Loop σ → Prop
  | new (client : σ) : History access target [] ⟨{ target := target, client := client }, []⟩
  | turn {entries : List (Entry σ)} {l : Loop σ} (h : History access target entries l)
      (turn : Turn) (possible : turn.isPossible l) :
      History access target
        (entries ++ [⟨turn, l.sink.client, (turn.take access l).events⟩])
        (turn.take access l).state

/-- Takes turns one after another, as long as each of them is possible: their entries, and the loop
after them. -/
def Loop.record (access : Access σ) (l : Loop σ) : List Turn → Option (List (Entry σ) × Loop σ)
  | [] => some ([], l)
  | turn :: rest =>
    if turn.isPossible l then
      (record access (turn.take access l).state rest).map fun later =>
        (⟨turn, l.sink.client, (turn.take access l).events⟩ :: later.1, later.2)
    else none

/-- What is recorded continues a history. -/
theorem History.record {access : Access σ} {target : Target} {entries : List (Entry σ)}
    {l : Loop σ} (h : History access target entries l) {turns : List Turn}
    {more : List (Entry σ)} {l' : Loop σ} (hrecord : l.record access turns = some (more, l')) :
    History access target (entries ++ more) l' := by
  induction turns generalizing entries l more with
  | nil =>
      cases hrecord
      rw [List.append_nil]
      exact h
  | cons turn rest ih =>
      rw [Loop.record] at hrecord
      split at hrecord
      · rename_i possible
        obtain ⟨⟨later, l''⟩, hlater, heq⟩ := Option.map_eq_some_iff.mp hrecord
        cases heq
        have hafter := ih (h.turn turn possible) hlater
        rw [List.append_assoc, List.singleton_append] at hafter
        exact hafter
      · cases hrecord

/-! ### What entries tell -/

/-- The batches that were submitted, in order. -/
def batches (entries : List (Entry σ)) : List (List Document) :=
  entries.filterMap (·.turn.batch?)

/-- The entries in which a job was done for the task of a number. -/
def jobsFor (i : Nat) (entries : List (Entry σ)) : List (Entry σ) :=
  entries.filter fun e => e.turn.job?.any (·.task == i)

/-- The task of a number was reported. -/
def isReported (entries : List (Entry σ)) (i : Nat) : Bool :=
  entries.any fun e => e.turn.job? == some (.report i)

/-- It was asked for the task of a number to be cancelled. -/
def IsCancelled (entries : List (Entry σ)) (i : Nat) : Prop :=
  ∃ e ∈ entries, e.turn = .cancel i

section Entries

variable (entries : List (Entry σ)) (e : Entry σ)

/-- The batches of two histories are those of the one and then those of the other. -/
theorem batches_append (later : List (Entry σ)) :
    batches (entries ++ later) = batches entries ++ batches later := List.filterMap_append

/-- One turn more adds its batch, if it submits one. -/
theorem batches_snoc : batches (entries ++ [e]) = batches entries ++ e.turn.batch?.toList := by
  rw [batches_append]
  cases h : e.turn.batch? <;> simp [batches, h]

/-- One turn more counts for a task if it does a job of it. -/
theorem jobsFor_snoc (i : Nat) :
    jobsFor i (entries ++ [e]) =
      jobsFor i entries ++ if e.turn.job?.any (·.task == i) then [e] else [] := by
  rw [jobsFor, List.filter_append, List.filter_cons, List.filter_nil, jobsFor]

/-- A turn that does no job counts for no task. -/
theorem jobsFor_snoc_of_none {e : Entry σ} (h : e.turn.job? = none) (i : Nat) :
    jobsFor i (entries ++ [e]) = jobsFor i entries := by
  rw [jobsFor_snoc, h, Option.any_none, if_neg Bool.false_ne_true, List.append_nil]

/-- A task has been reported if it was before, or is by the last turn. -/
theorem isReported_snoc (i : Nat) :
    isReported (entries ++ [e]) i = (isReported entries i || e.turn.job? == some (.report i)) := by
  simp [isReported]

/-- A turn that does no job reports no task. -/
theorem isReported_snoc_of_none {e : Entry σ} (h : e.turn.job? = none) (i : Nat) :
    isReported (entries ++ [e]) i = isReported entries i := by
  rw [isReported_snoc, h]
  exact Bool.or_false _

/-- Whether a task was reported is seen in the jobs that were done for it. -/
theorem isReported_eq (i : Nat) :
    isReported entries i = (jobsFor i entries).any fun e => e.turn.job? == some (.report i) := by
  rw [isReported, jobsFor, List.any_filter]
  congr 1
  funext e
  cases hjob : e.turn.job? with
  | none => rfl
  | some j =>
      by_cases hj : j = .report i
      · simp [hj, Job.task]
      · simp [hj]

end Entries

/-! ### What turns do to the sink -/

/-- The jobs of a queue that are for the task of a number. -/
def jobsOf (i : Nat) (queue : List Job) : List Job := queue.filter (·.task == i)

section Queue

variable {queue more : List Job} {i k : Nat} {j : Job}

/-- A job stands among the jobs of its task if it stands in the queue. -/
theorem mem_jobsOf_task : j ∈ jobsOf j.task queue ↔ j ∈ queue := by
  simp [jobsOf]

theorem contains_jobsOf : (jobsOf j.task queue).contains j = queue.contains j := by
  rw [Bool.eq_iff_iff, List.contains_iff_mem, List.contains_iff_mem, mem_jobsOf_task]

/-- Jobs of a task that are queued are jobs of the task. -/
theorem jobsOf_append_own (h : ∀ j ∈ more, j.task = i) :
    jobsOf i (queue ++ more) = jobsOf i queue ++ more := by
  have hown : more.filter (·.task == i) = more := by
    rw [List.filter_eq_self]
    intro j hj
    simp [h j hj]
  rw [jobsOf, List.filter_append, hown, jobsOf]

/-- Jobs of another task that are queued change nothing for a task. -/
theorem jobsOf_append_other (h : ∀ j ∈ more, j.task = i) (hk : k ≠ i) :
    jobsOf k (queue ++ more) = jobsOf k queue := by
  have hother : more.filter (·.task == k) = [] := by
    rw [List.filter_eq_nil_iff]
    intro j hj
    simpa [h j hj] using hk.symm
  rw [jobsOf, List.filter_append, hother, List.append_nil, jobsOf]

/-- A job that is taken from the queue is taken from those of its task. -/
theorem jobsOf_erase_own : jobsOf i (queue.erase j) = (jobsOf i queue).erase j := by
  rw [jobsOf, jobsOf, List.erase_filter]

/-- A job that is taken from the queue changes nothing for another task. -/
theorem jobsOf_erase_other (hk : k ≠ j.task) : jobsOf k (queue.erase j) = jobsOf k queue := by
  rw [jobsOf_erase_own, List.erase_of_not_mem]
  intro hj
  have htask : j.task = k := by simpa using (List.mem_filter.mp hj).2
  exact hk htask.symm

/-- What follows on a stage of a task is a job of this task. -/
theorem task_followUp (stage : Stage) : ∀ j ∈ stage.followUp i, j.task = i := by
  cases stage <;> simp [Stage.followUp, Job.task]

end Queue

namespace Sink

variable {s : Sink σ} {i : Nat} {t : Task}

/-- Working on a task with the client changes how far the task is, and what the client came to. -/
theorem workOn_apply {work : Act Event σ Stage} {stage : Stage}
    (h : (work s.client).result = .ok stage) :
    workOn i work s = ⟨(work s.client).events, .ok (),
      advance i stage { s with client := (work s.client).state }⟩ := by
  have hclient : onClient work s =
      ⟨(work s.client).events, .ok stage, { s with client := (work s.client).state }⟩ := by
    rw [onClient, Act.onPart_apply, h]
  rw [workOn, Act.bind_of_ok hclient]
  simp [Outcome.after]

/-- A report writes the line about the end of the task, and the batch is pending no more. -/
theorem reportTask_apply (i : Nat) (e : Ending) (s : Sink σ) :
    reportTask i e s = ⟨((e.line? s.target).map .log).toList, .ok (),
      { s with pending := s.pending.filter (· != i) }⟩ := by
  unfold reportTask
  rw [Act.bind_of_ok (Act.modify_apply _ s), Act.bind_of_ok (Act.get_apply _)]
  dsimp only
  cases e.line? s.target with
  | none => rfl
  | some line => rfl

variable (access : Access σ)

/-- A job is done for a task that is there, and is no more queued then. -/
theorem runQueued_apply {j : Job} (ht : s.tasks[j.task]? = some t) :
    runQueued access j s =
      (match j, t.stage with
        | .start i, .scheduled => workOn i (t.start access s.target)
        | .resume i, .waiting ticket => workOn i (t.resume access s.target ticket)
        | .report i, .ended e => reportTask i e
        | _, _ => pure ()) { s with queue := s.queue.erase j } := by
  rw [runQueued, Act.bind_of_ok (Act.modify_apply _ s), runJob, Act.bind_of_ok (Act.get_apply _)]
  dsimp only
  rw [ht]
  dsimp only
  cases j <;> cases t.stage <;> rfl

/-- The start of a task that is scheduled runs to the first point at which it waits or ends. -/
theorem runQueued_start (ht : s.tasks[i]? = some t) (hstage : t.stage = .scheduled) {stage : Stage}
    (h : (t.start access s.target s.client).result = .ok stage) :
    runQueued access (.start i) s = ⟨(t.start access s.target s.client).events, .ok (),
      advance i stage { s with
        client := (t.start access s.target s.client).state
        queue := s.queue.erase (.start i) }⟩ := by
  rw [runQueued_apply access (j := .start i) ht, hstage]
  exact workOn_apply h

/-- A task that waits goes on to the next point at which it waits or ends. -/
theorem runQueued_resume (ht : s.tasks[i]? = some t) {ticket : Nat}
    (hstage : t.stage = .waiting ticket) {stage : Stage}
    (h : (t.resume access s.target ticket s.client).result = .ok stage) :
    runQueued access (.resume i) s = ⟨(t.resume access s.target ticket s.client).events, .ok (),
      advance i stage { s with
        client := (t.resume access s.target ticket s.client).state
        queue := s.queue.erase (.resume i) }⟩ := by
  rw [runQueued_apply access (j := .resume i) ht, hstage]
  exact workOn_apply h

/-- The end of a task is reported. -/
theorem runQueued_report (ht : s.tasks[i]? = some t) {e : Ending} (hstage : t.stage = .ended e) :
    runQueued access (.report i) s = ⟨((e.line? s.target).map .log).toList, .ok (),
      { s with
        pending := s.pending.filter (· != i)
        queue := s.queue.erase (.report i) }⟩ := by
  rw [runQueued_apply access (j := .report i) ht, hstage]
  exact reportTask_apply _ _ _

/-- There is such a task and it has not ended, or there is none or it has ended. -/
theorem open_or_closed (s : Sink σ) (i : Nat) :
    (∃ t, s.tasks[i]? = some t ∧ t.isEnded = false) ∨ ∀ t, s.tasks[i]? = some t → t.isEnded := by
  cases ht : s.tasks[i]? with
  | none => simp
  | some t => cases hended : t.isEnded <;> simp [hended]

/-- A task that is not there or has ended is not cancelled. -/
theorem cancel_of_closed (h : ∀ t, s.tasks[i]? = some t → t.isEnded) :
    cancel i s = ⟨[], .ok false, s⟩ := by
  rw [cancel, Act.bind_of_ok (Act.get_apply s)]
  cases ht : s.tasks[i]? with
  | none => rfl
  | some t =>
      dsimp only
      rw [if_pos (h t ht)]
      rfl

/-- A task that is cancelled goes on if it waits. -/
theorem cancel_of_open (ht : s.tasks[i]? = some t) (hopen : t.isEnded = false) :
    cancel i s = ⟨[], .ok true, { s with
      tasks := s.tasks.modify i fun t => { t with cancelRequested := true }
      queue := s.queue ++
        if t.isWaiting && !s.queue.contains (.resume i) then [.resume i] else [] }⟩ := by
  rw [cancel, Act.bind_of_ok (Act.get_apply s)]
  rw [ht]
  dsimp only
  rw [hopen, if_neg Bool.false_ne_true, Act.bind_of_ok (Act.modify_apply _ s)]
  unfold Task.isEnded at hopen
  unfold Task.isWaiting
  cases hstage : t.stage with
  | scheduled =>
      rw [Bool.false_and, if_neg Bool.false_ne_true, List.append_nil]
      rfl
  | waiting ticket =>
      cases s.queue.contains (.resume i) with
      | true => simp [updateTask]
      | false => rfl
  | ended e =>
      rw [hstage] at hopen
      cases hopen

end Sink

/-- A turn that asks for a task to be cancelled notes nothing and does not fail. -/
theorem Turn.work_cancel (access : Access σ) (i : Nat) (s : Sink σ) :
    (Turn.cancel i).work access s = ⟨[], .ok (), (Sink.cancel i s).state⟩ := by
  have hcancel : ∃ b s', Sink.cancel i s = ⟨[], .ok b, s'⟩ := by
    rcases s.open_or_closed i with ⟨t, ht, hopen⟩ | hclosed
    · exact ⟨true, _, Sink.cancel_of_open ht hopen⟩
    · exact ⟨false, s, Sink.cancel_of_closed hclosed⟩
  obtain ⟨b, s', hcancel⟩ := hcancel
  rw [work, Act.bind_of_ok hcancel, hcancel]
  rfl

/-- A turn changes the sink, and then drains may look at it. -/
theorem Turn.take_apply (access : Access σ) (turn : Turn) {l : Loop σ}
    (h : (turn.work access l.sink).result = .ok ()) :
    turn.take access l = ⟨(turn.work access l.sink).events, .ok (),
      ⟨(turn.work access l.sink).state,
        turn.look (turn.work access l.sink).state l.drains⟩⟩ := by
  have hsink : Act.onPart Loop.sink (fun s l => { l with sink := s }) (turn.work access) l =
      ⟨(turn.work access l.sink).events, .ok (), ⟨(turn.work access l.sink).state, l.drains⟩⟩ := by
    rw [Act.onPart_apply, h]
  rw [take, Act.bind_of_ok hsink]
  simp [Outcome.after]

end RequestLog.Store
