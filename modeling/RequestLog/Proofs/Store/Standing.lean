import Mathlib.Data.List.Basic
import RequestLog.Proofs.Store.Tasks

/-!
# How tasks stand

At any time of a history each task stands in one of five ways (`Standing`), which says what is known
of its course and which one job of its own may be queued. A turn concerns one task at most, and
leaves all others as they stand (`Balanced.change`). So every task stands well after every turn
(`Balanced.turn`), and the tasks that are pending are those that were not reported.
-/

namespace RequestLog.Store

variable {σ : Type}

/-- How a task stands: the jobs that were done for it, what it is, and the jobs that are queued for
it. -/
inductive Standing (access : Access σ) (target : Target) (i : Nat) :
    List (Entry σ) → Task → List Job → Prop
  | scheduled {own : List (Entry σ)} {t : Task} (h : Course access target i own t)
      (hstage : t.stage = .scheduled) : Standing access target i own t [.start i]
  | waiting {own : List (Entry σ)} {t : Task} (h : Course access target i own t) {ticket : Nat}
      (hstage : t.stage = .waiting ticket) : Standing access target i own t []
  | resuming {own : List (Entry σ)} {t : Task} (h : Course access target i own t) {ticket : Nat}
      (hstage : t.stage = .waiting ticket) : Standing access target i own t [.resume i]
  | ended {own : List (Entry σ)} {t : Task} (h : Course access target i own t) {e : Ending}
      (hstage : t.stage = .ended e) : Standing access target i own t [.report i]
  | reported {own : List (Entry σ)} {t : Task} (h : Course access target i own t) {e : Ending}
      (hstage : t.stage = .ended e) (c : σ) :
      Standing access target i
        (own ++ [⟨.job (.report i), c, ((e.line? target).map .log).toList⟩]) t []

namespace Standing

variable {access : Access σ} {target : Target} {i : Nat} {own : List (Entry σ)} {t : Task}
  {jobs : List Job}

/-- A task that has been started stands with the job that follows. -/
theorem of_course (h : Course access target i own t) (hstage : t.stage ≠ .scheduled) :
    Standing access target i own t (t.stage.followUp i) := by
  cases hs : t.stage with
  | scheduled => exact absurd hs hstage
  | waiting ticket => exact .waiting h hs
  | ended e => exact .ended h hs

/-- A task that waits goes on when it has an answer. -/
theorem answer (h : Standing access target i own t jobs) (hwaiting : t.isWaiting)
    (hjobs : .resume i ∉ jobs) : Standing access target i own t (jobs ++ [.resume i]) := by
  cases h with
  | scheduled h hs => simp [Task.isWaiting, hs] at hwaiting
  | waiting h hs => exact .resuming h hs
  | resuming h hs => simp at hjobs
  | ended h hs => simp [Task.isWaiting, hs] at hwaiting
  | reported h hs c => simp [Task.isWaiting, hs] at hwaiting

/-- A task that has not ended may be asked to be cancelled, and goes on if it waits. -/
theorem cancel (h : Standing access target i own t jobs) (hopen : t.isEnded = false) :
    Standing access target i own { t with cancelRequested := true }
      (jobs ++ if t.isWaiting && !jobs.contains (.resume i) then [.resume i] else []) := by
  cases h with
  | scheduled h hs =>
      have hwaiting : t.isWaiting = false := by rw [Task.isWaiting, hs]
      rw [hwaiting]
      exact .scheduled h.cancel hs
  | waiting h hs =>
      have hwaiting : t.isWaiting = true := by rw [Task.isWaiting, hs]
      rw [hwaiting]
      exact .resuming h.cancel hs
  | resuming h hs =>
      have hwaiting : t.isWaiting = true := by rw [Task.isWaiting, hs]
      simpa [hwaiting] using Standing.resuming h.cancel hs
  | ended h hs => simp [Task.isEnded, hs] at hopen
  | reported h hs c => simp [Task.isEnded, hs] at hopen

/-- A task was reported exactly if it has ended and its report is not queued. -/
theorem any_report_iff (h : Standing access target i own t jobs) :
    own.any (fun e => e.turn.job? == some (.report i)) =
      (t.isEnded && !jobs.contains (.report i)) := by
  have hcourse : ∀ {own : List (Entry σ)}, Course access target i own t →
      own.any (fun e => e.turn.job? == some (.report i)) = false := by
    intro own h
    rw [List.any_eq_false]
    intro e he
    simpa using h.unreported.2 e he
  cases h with
  | scheduled h hs => simp [hcourse h, Task.isEnded, hs]
  | waiting h hs => simp [hcourse h, Task.isEnded, hs]
  | resuming h hs => simp [hcourse h, Task.isEnded, hs]
  | ended h hs => simp [hcourse h, Task.isEnded, hs]
  | reported h hs c => simp [Task.isEnded, hs, Turn.job?]

end Standing

/-! ### One turn -/

/-- An element after one has been added at the end: one of those before, or this one. -/
theorem getElem?_concat_cases {α : Type} {l : List α} {a b : α} {k : Nat}
    (h : (l ++ [a])[k]? = some b) : l[k]? = some b ∨ (k = l.length ∧ b = a) := by
  rcases Nat.lt_trichotomy k l.length with hk | rfl | hk
  · rw [List.getElem?_append_left hk] at h
    exact .inl h
  · rw [List.getElem?_concat_length] at h
    exact .inr ⟨rfl, (Option.some.inj h).symm⟩
  · rw [List.getElem?_eq_none (by simp; omega)] at h
    cases h

/-- An element that is changed at its place is replaced by what it is changed to. -/
theorem modify_eq_set {α : Type} {l : List α} {i : Nat} {a : α} (h : l[i]? = some a) (f : α → α) :
    l.modify i f = l.set i (f a) := by
  rw [List.modify_eq_set_getElem?, h]
  rfl

theorem set_eq_self {α : Type} {l : List α} {i : Nat} {a : α} (h : l[i]? = some a) :
    l.set i a = l := by
  obtain ⟨hlt, rfl⟩ := List.getElem?_eq_some_iff.mp h
  exact List.set_getElem_self hlt

/-- Where a turn reports no task, nothing is taken away. -/
theorem filter_unreported {e : Entry σ} (h : ∀ k, e.turn.job? ≠ some (.report k)) (l : List Nat) :
    l.filter (fun k => !(e.turn.job? == some (.report k))) = l := by
  rw [List.filter_eq_self]
  intro k _
  simpa using h k

theorem IsCancelled.snoc {entries : List (Entry σ)} {i : Nat} (h : IsCancelled entries i)
    (e : Entry σ) : IsCancelled (entries ++ [e]) i := by
  obtain ⟨e', he', hturn⟩ := h
  exact ⟨e', List.mem_append_left _ he', hturn⟩

/-- The sink changes in nothing but the client, the tasks that are pending, and one task and its
jobs. -/
structure Sink.ChangesAt (i : Nat) (t : Task) (s s' : Sink σ) : Prop where
  target : s'.target = s.target
  tasks : s'.tasks = s.tasks.set i t
  jobs : ∀ k, k ≠ i → jobsOf k s'.queue = jobsOf k s.queue

/-- What the entries tell of the sink: every task stands well, with the batch that was submitted for
it, and those are pending that were not reported. -/
structure Balanced (access : Access σ) (target : Target) (entries : List (Entry σ)) (s : Sink σ) :
    Prop where
  target_eq : s.target = target
  documents : s.tasks.map (·.documents) = batches entries
  standing : ∀ i t, s.tasks[i]? = some t →
    Standing access target i (jobsFor i entries) t (jobsOf i s.queue)
  idle : ∀ i, s.tasks[i]? = none → jobsFor i entries = [] ∧ jobsOf i s.queue = []
  cancelled : ∀ i t, s.tasks[i]? = some t → t.cancelRequested → IsCancelled entries i
  pending : s.pending = (List.range s.tasks.length).filter fun i => !isReported entries i

namespace Balanced

variable {access : Access σ} {target : Target} {entries : List (Entry σ)} {s s' : Sink σ}
  {e : Entry σ} {i : Nat} {t t' : Task}

theorem new (client : σ) :
    Balanced access target [] ({ target := target, client := client } : Sink σ) where
  target_eq := rfl
  documents := rfl
  standing := by simp
  idle := fun _ _ => ⟨rfl, rfl⟩
  cancelled := by simp
  pending := rfl

/-- A turn that changes one task and its jobs leaves all others as they stand. -/
theorem change (h : Balanced access target entries s) (ht : s.tasks[i]? = some t)
    (hchange : Sink.ChangesAt i t' s s') (hdocuments : t'.documents = t.documents)
    (hbatch : e.turn.batch? = none) (hjob : ∀ j, e.turn.job? = some j → j.task = i)
    (hstanding : Standing access target i (jobsFor i (entries ++ [e])) t' (jobsOf i s'.queue))
    (hcancelled : t'.cancelRequested → t.cancelRequested ∨ e.turn = .cancel i)
    (hpending : s'.pending = s.pending.filter fun k => !(e.turn.job? == some (.report k))) :
    Balanced access target (entries ++ [e]) s' := by
  have hlt : i < s.tasks.length := (List.getElem?_eq_some_iff.mp ht).1
  have hself : s'.tasks[i]? = some t' := by rw [hchange.tasks, List.getElem?_set_self hlt]
  have hother : ∀ k, k ≠ i → s'.tasks[k]? = s.tasks[k]? := by
    intro k hk
    rw [hchange.tasks, List.getElem?_set_ne hk.symm]
  have hown : ∀ k, k ≠ i → jobsFor k (entries ++ [e]) = jobsFor k entries := by
    intro k hk
    have hnot : e.turn.job?.any (·.task == k) = false := by
      cases hj : e.turn.job? with
      | none => rfl
      | some j => simpa [hjob j hj] using hk.symm
    rw [jobsFor_snoc, hnot, if_neg Bool.false_ne_true, List.append_nil]
  constructor
  · exact hchange.target.trans h.target_eq
  · rw [batches_snoc, hbatch, Option.toList_none, List.append_nil, ← h.documents]
    apply List.ext_getElem?
    intro k
    rw [List.getElem?_map, List.getElem?_map]
    by_cases hk : k = i
    · rw [hk, hself, ht, Option.map_some, Option.map_some, hdocuments]
    · rw [hother k hk]
  · intro k t₁ ht₁
    by_cases hk : k = i
    · subst hk
      rw [hself] at ht₁
      cases ht₁
      exact hstanding
    · rw [hother k hk] at ht₁
      rw [hown k hk, hchange.jobs k hk]
      exact h.standing k t₁ ht₁
  · intro k hnone
    have hk : k ≠ i := by
      rintro rfl
      rw [hself] at hnone
      cases hnone
    rw [hother k hk] at hnone
    rw [hown k hk, hchange.jobs k hk]
    exact h.idle k hnone
  · intro k t₁ ht₁ hrequested
    by_cases hk : k = i
    · subst hk
      rw [hself] at ht₁
      cases ht₁
      rcases hcancelled hrequested with hbefore | hturn
      · exact (h.cancelled k t ht hbefore).snoc e
      · exact ⟨e, by simp, hturn⟩
    · rw [hother k hk] at ht₁
      exact (h.cancelled k t₁ ht₁ hrequested).snoc e
  · rw [hpending, h.pending, hchange.tasks, List.length_set, List.filter_filter]
    apply List.filter_congr
    intro k _
    rw [isReported_snoc, Bool.not_or, Bool.and_comm]

/-- A turn that changes nothing. -/
theorem idleTurn (h : Balanced access target entries s) (hbatch : e.turn.batch? = none)
    (hjob : e.turn.job? = none) : Balanced access target (entries ++ [e]) s where
  target_eq := h.target_eq
  documents := by rw [batches_snoc, hbatch, Option.toList_none, List.append_nil, h.documents]
  standing := by
    intro i t ht
    rw [jobsFor_snoc_of_none entries hjob]
    exact h.standing i t ht
  idle := by
    intro i hnone
    rw [jobsFor_snoc_of_none entries hjob]
    exact h.idle i hnone
  cancelled := fun i t ht hrequested => (h.cancelled i t ht hrequested).snoc e
  pending := by
    simp only [isReported_snoc_of_none entries hjob, h.pending]

/-- A batch that is submitted is one more task, which is scheduled. -/
theorem submit (h : Balanced access target entries s) {documents : List Document}
    (hturn : e.turn = .submit documents) :
    Balanced access target (entries ++ [e]) (Sink.submit true documents s).state := by
  have hjob : e.turn.job? = none := by rw [hturn]; rfl
  have hown := jobsFor_snoc_of_none entries hjob
  have hreported := isReported_snoc_of_none entries hjob
  have htask : ∀ j ∈ [Job.start s.tasks.length], j.task = s.tasks.length := by simp [Job.task]
  have hqueue : (Sink.submit true documents s).state.queue =
    s.queue ++ [.start s.tasks.length] := rfl
  have htasks : (Sink.submit true documents s).state.tasks =
    s.tasks ++ [{ documents := documents }] := rfl
  obtain ⟨hnewown, hnewqueue⟩ := h.idle s.tasks.length (by simp)
  have hnew : isReported entries s.tasks.length = false := by
    rw [isReported_eq, hnewown]
    rfl
  constructor
  · exact h.target_eq
  · simp [htasks, batches_snoc, hturn, Turn.batch?, h.documents]
  · intro k t₁ ht₁
    rw [htasks] at ht₁
    rcases getElem?_concat_cases ht₁ with hbefore | ⟨rfl, rfl⟩
    · have hk : k < s.tasks.length := (List.getElem?_eq_some_iff.mp hbefore).1
      rw [hown, hqueue, jobsOf_append_other htask (Nat.ne_of_lt hk)]
      exact h.standing k t₁ hbefore
    · rw [hown, hnewown, hqueue, jobsOf_append_own htask, hnewqueue]
      exact .scheduled (.scheduled documents) rfl
  · intro k hnone
    rw [htasks, List.getElem?_eq_none_iff, List.length_append, List.length_singleton] at hnone
    rw [hown, hqueue, jobsOf_append_other htask (by omega)]
    exact h.idle k (List.getElem?_eq_none (by omega))
  · intro k t₁ ht₁ hrequested
    rw [htasks] at ht₁
    rcases getElem?_concat_cases ht₁ with hbefore | ⟨-, rfl⟩
    · exact (h.cancelled k t₁ hbefore hrequested).snoc e
    · cases hrequested
  · have hpending : (Sink.submit true documents s).state.pending =
      s.pending ++ [s.tasks.length] := rfl
    rw [hpending, htasks, List.length_append, List.length_singleton, List.range_succ,
      List.filter_append, h.pending]
    simp [hreported, hnew]

/-- A task comes to a stage by the one job that was queued for it. -/
theorem advance (h : Balanced access target entries s) (ht : s.tasks[i]? = some t) {j : Job}
    (hj : j.task = i) (hjobs : jobsOf i s.queue = [j]) (hreport : ∀ k, j ≠ .report k)
    (hturn : e.turn = .job j) {stage : Stage} (hstage : stage ≠ .scheduled)
    (hcourse : Course access target i (jobsFor i entries ++ [e]) { t with stage }) (c : σ) :
    Balanced access target (entries ++ [e])
      (Sink.advance i stage { s with client := c, queue := s.queue.erase j }) := by
  have hqueue : jobsOf i (s.queue.erase j ++ stage.followUp i) = stage.followUp i := by
    rw [jobsOf_append_own (task_followUp stage), jobsOf_erase_own, hjobs, List.erase_cons_head,
      List.nil_append]
  have hown : jobsFor i (entries ++ [e]) = jobsFor i entries ++ [e] := by
    simp [jobsFor_snoc, hturn, Turn.job?, hj]
  have hchange : Sink.ChangesAt i { t with stage } s
      (Sink.advance i stage { s with client := c, queue := s.queue.erase j }) := by
    constructor
    · rfl
    · exact modify_eq_set ht _
    · intro k hk
      exact (jobsOf_append_other (task_followUp stage) hk).trans
        (jobsOf_erase_other (hj ▸ hk))
  refine h.change ht hchange rfl (by rw [hturn]; rfl) ?_ ?_ .inl ?_
  · intro j' hj'
    rw [hturn] at hj'
    cases hj'
    exact hj
  · rw [hown]
    change Standing _ _ _ _ _ (jobsOf i (s.queue.erase j ++ stage.followUp i))
    rw [hqueue]
    exact .of_course hcourse hstage
  · refine (filter_unreported ?_ _).symm
    simpa [hturn, Turn.job?] using hreport

/-- A task that has ended is reported. -/
theorem report (h : Balanced access target entries s) (ht : s.tasks[i]? = some t)
    (hjobs : jobsOf i s.queue = [.report i]) (hturn : e.turn = .job (.report i))
    (hstanding : Standing access target i (jobsFor i entries ++ [e]) t []) :
    Balanced access target (entries ++ [e])
      { s with pending := s.pending.filter (· != i), queue := s.queue.erase (.report i) } := by
  have hown : jobsFor i (entries ++ [e]) = jobsFor i entries ++ [e] := by
    simp [jobsFor_snoc, hturn, Turn.job?, Job.task]
  refine h.change ht ⟨rfl, (set_eq_self ht).symm, fun k hk => jobsOf_erase_other hk⟩ rfl
    (by rw [hturn]; rfl) ?_ ?_ .inl ?_
  · intro j hj
    rw [hturn] at hj
    cases hj
    rfl
  · dsimp only
    rw [hown, jobsOf_erase_own, hjobs, List.erase_cons_head]
    exact hstanding
  · apply List.filter_congr
    intro k _
    rw [Bool.eq_iff_iff]
    simpa [hturn, Turn.job?] using ne_comm

/-- A job that is queued brings its task one step further. -/
theorem job (h : Balanced access target entries s) {j : Job} (hj : j ∈ s.queue) :
    (Sink.runQueued access j s).result = .ok () ∧
      Balanced access target
        (entries ++ [⟨.job j, s.client, (Sink.runQueued access j s).events⟩])
        (Sink.runQueued access j s).state := by
  obtain ⟨i, hi⟩ : ∃ i, j.task = i := ⟨_, rfl⟩
  rw [← mem_jobsOf_task, hi] at hj
  cases ht : s.tasks[i]? with
  | none =>
      rw [(h.idle i ht).2] at hj
      cases hj
  | some t =>
      have hstanding := h.standing i t ht
      obtain rfl := h.target_eq
      generalize hown : jobsFor i entries = own at hstanding
      generalize hjobs : jobsOf i s.queue = jobs at hstanding hj
      cases hstanding with
      | scheduled hcourse hs =>
          obtain rfl := List.mem_singleton.mp hj
          obtain ⟨stage, hresult, hne⟩ := Task.start_result access s.target t s.client
          rw [Sink.runQueued_start access ht hs hresult]
          refine ⟨rfl, h.advance ht rfl hjobs (by simp) rfl hne ?_ _⟩
          rw [hown]
          exact hcourse.start hs hresult
      | waiting hcourse hs => cases hj
      | resuming hcourse hs =>
          obtain rfl := List.mem_singleton.mp hj
          obtain ⟨ending, hresult⟩ := Task.resume_result access s.target t _ s.client
          rw [Sink.runQueued_resume access ht hs hresult]
          refine ⟨rfl, h.advance ht rfl hjobs (by simp) rfl (by simp) ?_ _⟩
          rw [hown]
          exact hcourse.resume hs hresult
      | ended hcourse hs =>
          obtain rfl := List.mem_singleton.mp hj
          rw [Sink.runQueued_report access ht hs]
          refine ⟨rfl, h.report ht hjobs rfl ?_⟩
          rw [hown]
          exact .reported hcourse hs _
      | reported hcourse hs c => cases hj

/-- The store's answer lets a task that waits go on. -/
theorem answer (h : Balanced access target entries s) (hturn : e.turn = .answer i)
    (ht : s.tasks[i]? = some t) (hwaiting : t.isWaiting) (hqueue : .resume i ∉ s.queue) :
    Balanced access target (entries ++ [e]) (Sink.enqueue (.resume i) s) := by
  have hjob : e.turn.job? = none := by rw [hturn]; rfl
  have htask : ∀ j ∈ [Job.resume i], j.task = i := by simp [Job.task]
  have hchange : Sink.ChangesAt i t s (Sink.enqueue (.resume i) s) := by
    exact ⟨rfl, (set_eq_self ht).symm, fun k hk => jobsOf_append_other htask hk⟩
  refine h.change ht hchange rfl (by rw [hturn]; rfl) (by simp [hjob]) ?_ .inl
    (filter_unreported (by simp [hjob]) _).symm
  rw [jobsFor_snoc_of_none entries hjob]
  change Standing _ _ _ _ _ (jobsOf i (s.queue ++ [.resume i]))
  rw [jobsOf_append_own htask]
  exact (h.standing i t ht).answer hwaiting fun hj => hqueue (mem_jobsOf_task.mp hj)

/-- A task is asked to be cancelled. -/
theorem cancel (h : Balanced access target entries s) (hturn : e.turn = .cancel i) :
    Balanced access target (entries ++ [e]) (Sink.cancel i s).state := by
  have hjob : e.turn.job? = none := by rw [hturn]; rfl
  have hbatch : e.turn.batch? = none := by rw [hturn]; rfl
  rcases s.open_or_closed i with ⟨t, ht, hopen⟩ | hclosed
  · rw [Sink.cancel_of_open ht hopen]
    have hcontains : (jobsOf i s.queue).contains (.resume i) = s.queue.contains (.resume i) :=
      contains_jobsOf
    have htask : ∀ j ∈ (if t.isWaiting && !s.queue.contains (.resume i) then
        [Job.resume i] else []), j.task = i := by
      split <;> simp [Job.task]
    refine h.change ht ⟨h.target_eq ▸ rfl, modify_eq_set ht _, fun k hk => ?_⟩ rfl hbatch
      (by simp [hjob]) ?_ (fun _ => .inr hturn) (filter_unreported (by simp [hjob]) _).symm
    · exact jobsOf_append_other htask hk
    · rw [jobsFor_snoc_of_none entries hjob]
      dsimp only
      rw [jobsOf_append_own htask, ← hcontains]
      exact (h.standing i t ht).cancel hopen
  · rw [Sink.cancel_of_closed hclosed]
    exact h.idleTurn hbatch hjob

/-- **One turn.**  A turn that is possible does not fail, and all tasks stand well after it. -/
theorem turn {l : Loop σ} (h : Balanced access target entries l.sink) {turn : Turn}
    (possible : turn.isPossible l) :
    (turn.work access l.sink).result = .ok () ∧
      Balanced access target
        (entries ++ [⟨turn, l.sink.client, (turn.work access l.sink).events⟩])
        (turn.work access l.sink).state := by
  cases turn with
  | submit documents => exact ⟨rfl, h.submit rfl⟩
  | job j => exact h.job (by simpa [Turn.isPossible] using possible)
  | answer i =>
      obtain ⟨hwaiting, hqueue⟩ := Bool.and_eq_true_iff.mp possible
      obtain ⟨t, ht, hwaiting⟩ := (Option.any_eq_true _ _).mp hwaiting
      exact ⟨rfl, h.answer rfl ht hwaiting (by simpa using hqueue)⟩
  | cancel i =>
      rw [Turn.work_cancel]
      exact ⟨rfl, h.cancel rfl⟩
  | drain => exact ⟨rfl, h.idleTurn rfl rfl⟩
  | wake n => exact ⟨rfl, h.idleTurn rfl rfl⟩

end Balanced

/-- After any history all tasks stand well. -/
theorem History.balanced {access : Access σ} {target : Target} {entries : List (Entry σ)}
    {l : Loop σ} (h : History access target entries l) :
    Balanced access target entries l.sink := by
  induction h with
  | new client => exact .new client
  | turn h turn possible ih =>
      obtain ⟨hresult, hbalanced⟩ := ih.turn possible
      rw [turn.take_apply access hresult]
      exact hbalanced

end RequestLog.Store
