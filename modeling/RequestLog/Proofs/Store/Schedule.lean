import RequestLog.Proofs.Store.Accounts

/-!
# The sink's own schedule

The sink does its jobs in the order in which they were queued. This is one of the orders that an
event loop may take: settling and draining continue a history (`History.settle`, `History.drain`).
Only reports follow when jobs are done, and nothing follows a report (`Follow`), so that a settled
sink has nothing to do; a drain says that it has returned exactly if no task is pending then.
-/

namespace RequestLog.Store

variable {σ : Type}

/-- The job reports a task. -/
def Job.isReport : Job → Bool
  | report _ => true
  | start _ | resume _ => false

/-- The jobs that are queued when these were done: what stood behind them, and then reports, which
follow only if a job was none. -/
structure Follow (done behind queue : List Job) : Prop where
  reports : ∃ more, queue = behind ++ more ∧ ∀ j ∈ more, j.isReport
  none_after : (∀ j ∈ done, j.isReport) → queue = behind

theorem follow_nothing (queue : List Job) : Follow [] queue queue :=
  ⟨⟨[], (List.append_nil _).symm, by simp⟩, fun _ => rfl⟩

/-- One job is done, and then others. -/
theorem Follow.cons {j : Job} {done behind next queue : List Job}
    (hfirst : Follow [j] (done ++ behind) next)
    (hrest : ∀ more, next = done ++ (behind ++ more) → Follow done (behind ++ more) queue) :
    Follow (j :: done) behind queue := by
  obtain ⟨more, hnext, hmore⟩ := hfirst.reports
  rw [List.append_assoc] at hnext
  have hafter := hrest more hnext
  constructor
  · obtain ⟨later, hqueue, hlater⟩ := hafter.reports
    refine ⟨more ++ later, by rw [hqueue, List.append_assoc], ?_⟩
    exact List.forall_mem_append.mpr ⟨hmore, hlater⟩
  · intro hdone
    obtain ⟨hj, hdone⟩ := List.forall_mem_cons.mp hdone
    have hnone : more = [] := by
      have hkept := hfirst.none_after (by simpa using hj)
      rw [hnext, ← List.append_assoc] at hkept
      exact List.append_right_eq_self.mp hkept
    rw [hafter.none_after hdone, hnone, List.append_nil]

namespace Sink

/-- The act adds reports to the queue at most. -/
def AddsReports (m : Act Event (Sink σ) Unit) : Prop :=
  ∀ s, ∃ more, (m s).state.queue = s.queue ++ more ∧ ∀ j ∈ more, j.isReport

theorem isReport_followUp (i : Nat) (stage : Stage) : ∀ j ∈ stage.followUp i, j.isReport := by
  cases stage <;> simp [Stage.followUp, Job.isReport]

theorem addsReports_pure : AddsReports (pure () : Act Event (Sink σ) Unit) :=
  fun _ => ⟨[], (List.append_nil _).symm, by simp⟩

theorem addsReports_workOn (i : Nat) (work : Act Event σ Stage) : AddsReports (workOn i work) := by
  intro s
  cases hr : (work s.client).result with
  | ok stage => exact ⟨stage.followUp i, by rw [workOn_apply hr]; rfl, isReport_followUp i stage⟩
  | error f =>
      have hclient : onClient work s =
          ⟨(work s.client).events, .error f, { s with client := (work s.client).state }⟩ := by
        rw [onClient, Act.onPart_apply, hr]
      exact ⟨[], by rw [workOn, Act.bind_of_error hclient, List.append_nil], by simp⟩

/-- A job that is done leaves the queue. -/
theorem follow_runQueued (access : Access σ) {s : Sink σ} {j : Job} {t : Task}
    (ht : s.tasks[j.task]? = some t) :
    Follow [j] (s.queue.erase j) (runQueued access j s).state.queue := by
  have happly := runQueued_apply access ht
  have of_adds {m : Act Event (Sink σ) Unit} (hm : AddsReports m) (hj : j.isReport = false)
      (h : runQueued access j s = m { s with queue := s.queue.erase j }) :
      Follow [j] (s.queue.erase j) (runQueued access j s).state.queue :=
    ⟨h ▸ hm _, by simp [hj]⟩
  cases j with
  | start i =>
      cases hstage : t.stage with
      | scheduled => exact of_adds (addsReports_workOn i _) rfl (by rw [happly, hstage])
      | waiting _ | ended _ => exact of_adds addsReports_pure rfl (by rw [happly, hstage])
  | resume i =>
      cases hstage : t.stage with
      | waiting ticket => exact of_adds (addsReports_workOn i _) rfl (by rw [happly, hstage])
      | scheduled | ended _ => exact of_adds addsReports_pure rfl (by rw [happly, hstage])
  | report i =>
      have hqueue : (runQueued access (.report i) s).state.queue = s.queue.erase (.report i) := by
        rw [happly]
        cases t.stage with
        | ended e =>
            dsimp only
            rw [reportTask_apply]
        | scheduled | waiting _ => rfl
      exact ⟨⟨[], by rw [hqueue, List.append_nil], by simp⟩, fun _ => hqueue⟩

end Sink

/-- What an act on the sink came to is what some turns of the event loop come to, of which none
cancels a task. -/
structure Continues (access : Access σ) (target : Target) (entries : List (Entry σ)) (l : Loop σ)
    (o : Outcome Event (Sink σ) Unit) (more : List (Entry σ)) : Prop where
  history : History access target (entries ++ more) ⟨o.state, l.drains⟩
  result : o.result = .ok ()
  events : eventsOf more = o.events
  uncancelled : ∀ e ∈ more, ∀ i, e.turn ≠ .cancel i

section Continues

variable {access : Access σ} {target : Target} {entries more later : List (Entry σ)} {l : Loop σ}

/-- The act does not fail, so another one goes on from it. -/
theorem Continues.bind_apply {α : Type} {m : Act Event (Sink σ) Unit}
    (h : Continues access target entries l (m l.sink) more) (k : Unit → Act Event (Sink σ) α) :
    (m >>= k) l.sink = (k () (m l.sink).state).after (m l.sink).events := by
  have hfirst : m l.sink = ⟨(m l.sink).events, .ok (), (m l.sink).state⟩ := by rw [← h.result]
  exact Act.bind_of_ok hfirst

/-- One act after another. -/
theorem Continues.andThen {m m' : Act Event (Sink σ) Unit}
    (h : Continues access target entries l (m l.sink) more)
    (h' : Continues access target (entries ++ more) ⟨(m l.sink).state, l.drains⟩
      (m' (m l.sink).state) later) :
    Continues access target entries l ((m >>= fun _ => m') l.sink) (more ++ later) := by
  rw [h.bind_apply]
  constructor
  · rw [← List.append_assoc]
    exact h'.history
  · exact h'.result
  · rw [eventsOf_append, h.events, h'.events]
    rfl
  · exact List.forall_mem_append.mpr ⟨h.uncancelled, h'.uncancelled⟩

/-- A job that is queued is done in one turn. -/
theorem History.runQueued (h : History access target entries l) {j : Job} (hj : j ∈ l.sink.queue) :
    Continues access target entries l (Sink.runQueued access j l.sink)
      [⟨.job j, l.sink.client, (Sink.runQueued access j l.sink).events⟩] := by
  have possible : (Turn.job j).isPossible l := by simpa [Turn.isPossible] using hj
  have hresult := (h.balanced.turn possible).1
  have hafter := h.turn (.job j) possible
  rw [(Turn.job j).take_apply access hresult] at hafter
  exact ⟨hafter, hresult, eventsOf_singleton _, by simp⟩

end Continues

namespace History

variable {access : Access σ} {target : Target} {entries : List (Entry σ)} {l : Loop σ}

/-- Doing the jobs at the front of the queue continues a history. -/
theorem runJobs (h : History access target entries l) {jobs rest : List Job}
    (hqueue : l.sink.queue = jobs ++ rest) :
    (∃ more, Continues access target entries l (Sink.runJobs access jobs l.sink) more) ∧
      Follow jobs rest (Sink.runJobs access jobs l.sink).state.queue := by
  induction jobs generalizing entries l rest with
  | nil =>
      have hnothing : Continues access target entries l (Sink.runJobs access [] l.sink) [] :=
        ⟨by rw [List.append_nil]; exact h, rfl, rfl, by simp⟩
      refine ⟨⟨[], hnothing⟩, ?_⟩
      change Follow [] rest l.sink.queue
      rw [hqueue]
      exact follow_nothing rest
  | cons j jobs ih =>
      have hj : j ∈ l.sink.queue := by simp [hqueue]
      have hfirst := h.runQueued hj
      obtain ⟨t, ht, -⟩ := h.task_of_batch (List.getElem?_eq_getElem (h.task_lt hj))
      have hfollow := Sink.follow_runQueued access ht
      rw [hqueue, List.cons_append, List.erase_cons_head] at hfollow
      constructor
      · obtain ⟨more, hmore, -⟩ := hfollow.reports
        rw [List.append_assoc] at hmore
        obtain ⟨⟨later, hlater⟩, -⟩ := ih hfirst.history hmore
        exact ⟨_, hfirst.andThen hlater⟩
      · rw [Sink.runJobs, hfirst.bind_apply]
        exact hfollow.cons fun more hmore => (ih hfirst.history hmore).2

/-- Doing the jobs that are queued continues a history. -/
theorem runQueue (h : History access target entries l) :
    (∃ more, Continues access target entries l (Sink.runQueue access l.sink) more) ∧
      Follow l.sink.queue [] (Sink.runQueue access l.sink).state.queue :=
  h.runJobs (List.append_nil _).symm

/-- **Settling.**  Doing jobs until none is queued continues a history, and none is queued then. -/
theorem settle (h : History access target entries l) :
    (∃ more, Continues access target entries l (Sink.settle access l.sink) more) ∧
      (Sink.settle access l.sink).state.queue = [] := by
  obtain ⟨⟨more, hmore⟩, hfollow⟩ := h.runQueue
  obtain ⟨⟨later, hlater⟩, hfollow'⟩ := hmore.history.runQueue
  refine ⟨⟨_, hmore.andThen hlater⟩, ?_⟩
  obtain ⟨reports, hreports, hall⟩ := hfollow.reports
  rw [Sink.settle, hmore.bind_apply]
  exact hfollow'.none_after (by rw [hreports]; exact hall)

/-- A drain that finds tasks pending settles the sink and looks again. -/
theorem drain_apply (h : History access target entries l) (hlook : l.sink.look ≠ .returned) :
    Sink.drain access l.sink = ⟨(Sink.settle access l.sink).events,
      .ok (decide ((Sink.settle access l.sink).state.lookAgain l.sink.look = .returned)),
      (Sink.settle access l.sink).state⟩ := by
  obtain ⟨⟨more, hmore⟩, -⟩ := h.settle
  rw [Sink.drain, Act.bind_of_ok (Act.get_apply _)]
  rw [if_neg hlook, hmore.bind_apply, Act.bind_of_ok (Act.get_apply _)]
  simp [Outcome.after]

/-- **Draining.**  A drain continues a history without cancelling a task, and says that it has
returned exactly if no task is pending then. If tasks are, nothing can be done for them. -/
theorem drain (h : History access target entries l) :
    ∃ more l', History access target (entries ++ more) l' ∧
      l'.sink = (Sink.drain access l.sink).state ∧
      eventsOf more = (Sink.drain access l.sink).events ∧
      (Sink.drain access l.sink).result = .ok (decide (l'.sink.pending = [])) ∧
      (∀ e ∈ more, ∀ i, e.turn ≠ .cancel i) ∧ (l'.sink.pending ≠ [] → l'.sink.queue = []) := by
  have hlooked : History access target (entries ++ [⟨.drain, l.sink.client, []⟩])
      ⟨l.sink, l.drains ++ [l.sink.look]⟩ := h.turn .drain rfl
  by_cases hlook : l.sink.look = .returned
  · refine ⟨_, _, hlooked, ?_⟩
    have hpending := Sink.look_eq_returned_iff.mp hlook
    rw [Sink.drain, Act.bind_of_ok (Act.get_apply _)]
    rw [if_pos hlook, hpending]
    exact ⟨rfl, rfl, rfl, by simp, fun hne => absurd rfl hne⟩
  · obtain ⟨⟨more, hmore⟩, hqueue⟩ := hlooked.settle
    cases hwaiting : l.sink.look with
    | returned => exact absurd hwaiting hlook
    | waiting tasks =>
        have hd : (l.drains ++ [l.sink.look])[l.drains.length]? = some (.waiting tasks) := by
          rw [List.getElem?_concat_length, hwaiting]
        refine ⟨_, _, by rw [← List.append_assoc]; exact hmore.history, ?_⟩
        rw [h.drain_apply hlook, hwaiting]
        refine ⟨rfl, hmore.events, ?_, ?_, fun _ => hqueue⟩
        · simp only [hmore.history.lookAgain_eq_returned_iff hd]
        · exact List.forall_mem_cons.mpr ⟨by simp, hmore.uncancelled⟩

end History

end RequestLog.Store
