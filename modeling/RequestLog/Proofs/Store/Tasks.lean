import RequestLog.Proofs.Store.Loop

/-!
# The course of a task

A task is started, may wait and go on, and ends. `Course` tells how it came to its stage by the jobs
that were done for it, each with the client's state in which it found the store. A task calls the
store's insert once at most, with its own documents (`Course.inserts`), and reports nothing by
itself (`Course.unreported`).
-/

namespace RequestLog.Store

variable {σ : Type} {α β : Type}

/-- The event is a call that inserts documents. -/
def Event.isInsert : Event → Bool
  | .call (.insert ..) => true
  | _ => false

/-- The event is a line in the log at the level of warnings or above it. -/
def Event.isReport : Event → Bool
  | .log line => line.level == .warning || line.level == .error
  | .call _ => false

/-- The event neither inserts nor reports. -/
def Event.IsQuiet (e : Event) : Prop := e.isInsert = false ∧ e.isReport = false

/-- The calls of the act that insert are among these, in this order. -/
def Inserts (calls : List Event) (m : Act Event σ α) : Prop :=
  ∀ c, ((m c).events.filter Event.isInsert).Sublist calls

/-! ### What inserting notes -/

/-- A call notes itself alone. -/
theorem notes_perform {p : Event → Prop} {client : Client σ} {c : Call} (h : p (.call c)) :
    (perform client c).Notes p :=
  (Act.notes_note h).bind fun _ => Act.notes_ask _

/-- What is quiet inserts nothing. -/
theorem inserts_of_quiet {m : Act Event σ α} (h : m.Notes Event.IsQuiet) : Inserts [] m := by
  intro c
  rw [List.sublist_nil, List.filter_eq_nil_iff]
  intro e he
  simp [(h c e he).1]

/-- Two acts insert what the first one does and then what the second one does. -/
theorem Inserts.bind {calls calls' : List Event} {m : Act Event σ α} {k : α → Act Event σ β}
    (hm : Inserts calls m) (hk : ∀ a, Inserts calls' (k a)) :
    Inserts (calls ++ calls') (m >>= k) := by
  intro c
  rw [Act.bind_apply]
  cases hr : (m c).result with
  | error f => exact (hm c).trans (List.sublist_append_left _ _)
  | ok a =>
      dsimp only
      rw [Outcome.after_events, List.filter_append]
      exact (hm c).append (hk a _)

section Insert

variable (access : Access σ) (target : Target) (documents : List Document)

/-- Connecting inserts nothing and reports nothing. -/
theorem quiet_connect : (connect access target).Notes Event.IsQuiet :=
  (Act.notes_ofExcept _).bind fun _ =>
    (notes_perform ⟨rfl, rfl⟩).bind fun _ => Act.notes_pure _

/-- The line that tells of an insert is no report. -/
theorem level_insertedLine {target : Target} {count : Nat} {line : LogLine}
    (h : insertedLine target count = .ok line) : line.level = .debug := by
  unfold insertedLine at h
  cases hlabel : target.label with
  | error f =>
      rw [hlabel] at h
      cases h
  | ok name =>
      rw [hlabel] at h
      cases h
      rfl

/-- Ending an insert inserts nothing more and reports nothing. -/
theorem quiet_endInsert (client : Client σ) (outcome : Except Fault Reply) :
    (endInsert client target documents outcome).Notes Event.IsQuiet := by
  refine Act.Notes.andFinally ?_ ((notes_perform ⟨rfl, rfl⟩).bind fun _ => Act.notes_pure _)
  refine (Act.notes_ofExcept _).bind fun reply => ?_
  cases hline : insertedLine target documents.length with
  | error f => exact fun c e he => nomatch he
  | ok line =>
      have hquiet : (Event.log line).IsQuiet := by
        simp [Event.IsQuiet, Event.isInsert, Event.isReport, level_insertedLine hline]
      exact (Act.notes_note hquiet).bind fun _ => Act.notes_pure _

/-- An insert that is begun reports nothing. -/
theorem unreported_beginInsert :
    (beginInsert access target documents).Notes (·.isReport = false) := by
  have hquiet : ∀ {α : Type} {m : Act Event σ α}, m.Notes Event.IsQuiet →
      m.Notes (·.isReport = false) := fun h c e he => (h c e he).2
  have hcall : ∀ c : Call, (perform access.client c).Notes (·.isReport = false) :=
    fun c => notes_perform rfl
  refine (hquiet (quiet_connect access target)).bind fun _ => ?_
  refine Act.Notes.bind ((hcall _).bind fun _ => hcall _).attempt fun outcome => ?_
  split
  · exact Act.notes_pure _
  · exact (hquiet (quiet_endInsert target documents _ _)).bind fun _ => Act.notes_pure _

/-- An attempt inserts what the act inserts. -/
theorem Inserts.attempt {calls : List Event} {m : Act Event σ α} (h : Inserts calls m) :
    Inserts calls m.attempt := h

/-- An insert that is begun calls the store's insert once at most, for its documents. -/
theorem inserts_beginInsert :
    Inserts [.call (.insert target.database target.collection documents)]
      (beginInsert access target documents) := by
  have hcalls : [Event.call (.insert target.database target.collection documents)] =
      [] ++ (([] ++ [.call (.insert target.database target.collection documents)]) ++ []) := rfl
  rw [hcalls]
  refine Inserts.bind (inserts_of_quiet (quiet_connect access target)) fun _ => ?_
  refine Inserts.bind (Inserts.attempt ?_) fun outcome => ?_
  · refine Inserts.bind (inserts_of_quiet (notes_perform ⟨rfl, rfl⟩)) fun _ => ?_
    exact fun c => List.Sublist.refl _
  · split
    · exact inserts_of_quiet (Act.notes_pure _)
    · refine inserts_of_quiet ((quiet_endInsert target documents _ _).bind fun _ => ?_)
      exact Act.notes_pure _

end Insert

/-! ### What a task does -/

namespace Task

variable (access : Access σ) (target : Target) (t : Task)

/-- A task that is to be cancelled ends when it is started; any other one begins its insert. -/
theorem start_apply (c : σ) : t.start access target c =
    if t.cancelRequested then ⟨[], .ok (.ended .cancelled), c⟩
    else
      ⟨(beginInsert access target t.documents c).events,
        .ok (.begun (beginInsert access target t.documents c).result),
        (beginInsert access target t.documents c).state⟩ := by
  unfold start
  cases t.cancelRequested with
  | true => rfl
  | false => exact Act.bind_pure_apply _ _ c

/-- A task that is to be cancelled closes its connection and ends; any other one goes on with the
answer that it waits for. -/
theorem resume_apply (ticket : Nat) (c : σ) : t.resume access target ticket c =
    if t.cancelRequested then
      ⟨[.call .close], .ok (.ended (.closed (access.client .close c).1)),
        (access.client .close c).2⟩
    else
      let answer := access.client (.await ticket) c
      let o := endInsert access.client target t.documents answer.1 answer.2
      ⟨.call (.await ticket) :: o.events, .ok (.ended (.of o.result)), o.state⟩ := by
  unfold resume
  cases t.cancelRequested with
  | true => rfl
  | false =>
      have hanswer : (perform access.client (.await ticket)).attempt c =
          ⟨[.call (.await ticket)], .ok (access.client (.await ticket) c).1,
            (access.client (.await ticket) c).2⟩ := rfl
      rw [if_neg Bool.false_ne_true, if_neg Bool.false_ne_true]
      exact (Act.bind_of_ok hanswer).trans (congrArg _ (Act.bind_pure_apply _ _ _))

/-- A task that is started does not stay as it was. -/
theorem start_result (c : σ) :
    ∃ stage, (t.start access target c).result = .ok stage ∧ stage ≠ .scheduled := by
  rw [start_apply]
  split
  · exact ⟨_, rfl, by simp⟩
  · refine ⟨_, rfl, ?_⟩
    intro h
    unfold Stage.begun at h
    split at h <;> cases h

/-- A task that goes on ends. -/
theorem resume_result (ticket : Nat) (c : σ) :
    ∃ e, (t.resume access target ticket c).result = .ok (.ended e) := by
  rw [resume_apply]
  split
  · exact ⟨_, rfl⟩
  · exact ⟨_, rfl⟩

/-- The start of a task inserts its documents once at most. -/
theorem inserts_start :
    Inserts [.call (.insert target.database target.collection t.documents)]
      (t.start access target) := by
  intro c
  rw [start_apply]
  split
  · exact List.nil_sublist _
  · exact inserts_beginInsert access target t.documents c

/-- The start of a task reports nothing. -/
theorem unreported_start : (t.start access target).Notes (·.isReport = false) := by
  intro c e he
  rw [start_apply] at he
  split at he
  · cases he
  · exact unreported_beginInsert access target t.documents c e he

/-- Going on inserts nothing more and reports nothing. -/
theorem quiet_resume (ticket : Nat) : (t.resume access target ticket).Notes Event.IsQuiet := by
  intro c e he
  rw [resume_apply] at he
  split at he
  · rw [List.mem_singleton.mp he]
    exact ⟨rfl, rfl⟩
  · rcases List.mem_cons.mp he with rfl | he
    · exact ⟨rfl, rfl⟩
    · exact quiet_endInsert target t.documents _ _ _ e he

end Task

/-! ### The course of one task -/

/-- The jobs that were done for a task by which it came to what it is: it is scheduled, it may be
asked to be cancelled at any time, it is started once, and if it waits then it goes on. -/
inductive Course (access : Access σ) (target : Target) (i : Nat) : List (Entry σ) → Task → Prop
  | scheduled (documents : List Document) : Course access target i [] { documents := documents }
  | cancel {own : List (Entry σ)} {t : Task} (h : Course access target i own t) :
      Course access target i own { t with cancelRequested := true }
  | start {own : List (Entry σ)} {t : Task} (h : Course access target i own t)
      (hstage : t.stage = .scheduled) {c : σ} {stage : Stage}
      (hresult : (t.start access target c).result = .ok stage) :
      Course access target i (own ++ [⟨.job (.start i), c, (t.start access target c).events⟩])
        { t with stage }
  | resume {own : List (Entry σ)} {t : Task} (h : Course access target i own t) {ticket : Nat}
      (hstage : t.stage = .waiting ticket) {c : σ} {stage : Stage}
      (hresult : (t.resume access target ticket c).result = .ok stage) :
      Course access target i
        (own ++ [⟨.job (.resume i), c, (t.resume access target ticket c).events⟩]) { t with stage }

/-- The events of entries. -/
def eventsOf (entries : List (Entry σ)) : List Event := entries.flatMap (·.events)

/-- The events of two histories are those of the one and then those of the other. -/
theorem eventsOf_append (entries entries' : List (Entry σ)) :
    eventsOf (entries ++ entries') = eventsOf entries ++ eventsOf entries' :=
  List.flatMap_append

theorem eventsOf_singleton (e : Entry σ) : eventsOf [e] = e.events := List.flatMap_singleton _ _

namespace Course

variable {access : Access σ} {target : Target} {i : Nat} {own : List (Entry σ)} {t : Task}

/-- Nothing has been done for a task that is scheduled. -/
theorem eq_nil_of_scheduled (h : Course access target i own t) (hstage : t.stage = .scheduled) :
    own = [] := by
  induction h with
  | scheduled => rfl
  | cancel h ih => exact ih hstage
  | @start own t h hs c stage hresult ih =>
      obtain ⟨stage', hresult', hne⟩ := Task.start_result access target t c
      rw [hresult] at hresult'
      cases hresult'
      exact absurd hstage hne
  | @resume own t h ticket hs c stage hresult ih =>
      obtain ⟨e, hresult'⟩ := Task.resume_result access target t ticket c
      rw [hresult] at hresult'
      cases hresult'
      cases hstage

/-- A task calls the store's insert once at most, for its documents. -/
theorem inserts (h : Course access target i own t) :
    ((eventsOf own).filter Event.isInsert).Sublist
      [.call (.insert target.database target.collection t.documents)] := by
  induction h with
  | scheduled => exact List.nil_sublist _
  | cancel h ih => exact ih
  | @start own t h hs c stage hresult ih =>
      rw [h.eq_nil_of_scheduled hs, List.nil_append, eventsOf_singleton]
      exact Task.inserts_start access target t c
  | @resume own t h ticket hs c stage hresult ih =>
      have hquiet := inserts_of_quiet (Task.quiet_resume access target t ticket) c
      rw [eventsOf_append, eventsOf_singleton, List.filter_append, List.sublist_nil.mp hquiet,
        List.append_nil]
      exact ih

/-- A task is started once at most. -/
theorem starts (h : Course access target i own t) :
    own.countP (fun e => e.turn.job? == some (.start i)) ≤ 1 := by
  induction h with
  | scheduled => exact Nat.zero_le _
  | cancel h ih => exact ih
  | start h hs hresult ih =>
      rw [h.eq_nil_of_scheduled hs]
      exact List.countP_le_length
  | resume h hs hresult ih =>
      rw [List.countP_append]
      exact ih

/-- Of the jobs in the course of a task none reports. -/
theorem unreported (h : Course access target i own t) :
    (∀ e ∈ eventsOf own, e.isReport = false) ∧ ∀ e ∈ own, e.turn.job? ≠ some (.report i) := by
  induction h with
  | scheduled => exact ⟨by simp [eventsOf], by simp⟩
  | cancel h ih => exact ih
  | @start own t h hs c stage hresult ih =>
      rw [h.eq_nil_of_scheduled hs, List.nil_append, eventsOf_singleton]
      refine ⟨Task.unreported_start access target t c, ?_⟩
      intro e he
      rw [List.mem_singleton.mp he]
      simp [Turn.job?]
  | @resume own t h ticket hs c stage hresult ih =>
      rw [eventsOf_append, eventsOf_singleton]
      constructor
      · intro e he
        rcases List.mem_append.mp he with he | he
        · exact ih.1 e he
        · exact (Task.quiet_resume access target t ticket c e he).2
      · intro e he
        rcases List.mem_append.mp he with he | he
        · exact ih.2 e he
        · rw [List.mem_singleton.mp he]
          simp [Turn.job?]

/-- Only a task that was asked to is cancelled. -/
theorem cancelRequested (h : Course access target i own t) (hstage : t.stage = .ended .cancelled) :
    t.cancelRequested := by
  induction h with
  | scheduled => cases hstage
  | cancel h ih => rfl
  | @start own t h hs c stage hresult ih =>
      rw [Task.start_apply] at hresult
      split at hresult
      · assumption
      · cases hresult
        unfold Stage.begun at hstage
        split at hstage <;> cases hstage
  | @resume own t h ticket hs c stage hresult ih =>
      rw [Task.resume_apply] at hresult
      split at hresult
      · assumption
      · cases hresult
        unfold Ending.of at hstage
        dsimp only at hstage
        split at hstage <;> cases hstage

end Course

end RequestLog.Store
