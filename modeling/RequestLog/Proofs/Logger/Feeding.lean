import RequestLog.Proofs.Logger.Once
import RequestLog.Proofs.Logger.Transparency
import RequestLog.Proofs.Store.Loop

/-!
# A logger before a sink in an event loop

A logger gives its documents to a sink in an event loop (`Logger.feeding`) and does nothing else to
the loop: after a request the loop is what submitting the batches makes of it that the events tell
of (`feeds_serve`). These are the document of the one exchange, if its record is not suppressed
(`LogsAt.submits_iff_batches`).
-/

namespace RequestLog

variable {ε Q R σ ρ κ α β : Type}

/-- A logger, with a state of its own, whose documents go to a sink in an event loop. -/
def Logger.feeding (access : Store.Access κ) (l : Logger ρ) : Logger (ρ × Store.Loop κ) :=
  { l with
    clock := fun p => ((l.clock p.1).1, (l.clock p.1).2, p.2)
    skip := l.skip.map fun p request response => Step.onFirst (p request response)
    build := fun sight => (l.build sight).onFirst
    submit := fun documents => Step.onSecond fun loop =>
      let o := (Store.Turn.submit documents).take access loop
      (o.result, o.state) }

/-- The loop after batches were submitted. -/
def Store.Loop.given (access : Store.Access κ) (loop : Store.Loop κ)
    (batches : List (List Document)) : Store.Loop κ :=
  Act.stateAfter (fun batch => (Store.Turn.submit batch).take access) loop batches

namespace Act

/-- The act does to the loop what submitting the batches does that its events tell of. -/
def Feeds (access : Store.Access κ) (m : Act (Event Q ε) (σ × ρ × Store.Loop κ) α) : Prop :=
  ∀ p, (m p).state.2.2 = p.2.2.given access ((m p).events.filterMap Event.batch?)

variable {access : Store.Access κ}

/-- A value feeds nothing. -/
theorem feeds_pure (a : α) :
    Feeds access (pure a : Act (Event Q ε) (σ × ρ × Store.Loop κ) α) :=
  fun _ => rfl

/-- A result feeds nothing. -/
theorem feeds_ofExcept (r : Except Fault α) :
    Feeds access (ofExcept r : Act (Event Q ε) (σ × ρ × Store.Loop κ) α) :=
  fun _ => rfl

/-- An event without a batch feeds nothing. -/
theorem feeds_note {e : Event Q ε} (h : e.batch? = none) :
    Feeds access (note e : Act (Event Q ε) (σ × ρ × Store.Loop κ) Unit) := by
  intro p
  rw [note_apply, List.filterMap_cons_none h]
  rfl

/-- An attempt feeds what the act feeds. -/
theorem Feeds.attempt {m : Act (Event Q ε) (σ × ρ × Store.Loop κ) α} (h : Feeds access m) :
    Feeds access m.attempt := h

/-- Two acts feed one after the other. -/
theorem Feeds.bind {m : Act (Event Q ε) (σ × ρ × Store.Loop κ) α}
    {k : α → Act (Event Q ε) (σ × ρ × Store.Loop κ) β} (hm : Feeds access m)
    (hk : ∀ a, Feeds access (k a)) : Feeds access (m >>= k) := by
  intro p
  rw [bind_apply]
  cases (m p).result with
  | error f => exact hm p
  | ok a =>
      dsimp only
      rw [Outcome.after_events, Outcome.after_state, List.filterMap_append, hk a, hm p,
        Store.Loop.given, Store.Loop.given, Store.Loop.given, stateAfter_append]

/-- What happens between server and application leaves the loop alone. -/
theorem feeds_onFirst {n : Act (Event Q ε) σ α} (h : n.Notes (·.isExchange)) :
    Feeds access (n.onFirst : Act (Event Q ε) (σ × ρ × Store.Loop κ) α) := by
  intro p
  have hnone : (n p.1).events.filterMap Event.batch? = [] :=
    List.filterMap_eq_nil_iff.mpr fun e he =>
      Event.batch?_eq_none (Event.not_isLogging_of_isExchange (h p.1 e he))
  rw [onFirst_apply, hnone]
  rfl

end Act

namespace Logger

section Feeding

variable (access : Store.Access κ) (l : Logger ρ) (w : Surroundings ε Q R σ)

/-! ### What feeds the sink -/

/-- Reading the clock feeds nothing. -/
theorem feeds_readClock :
    Act.Feeds access ((l.feeding access).onSecond.readClock :
      Act (Event Q ε) (σ × ρ × Store.Loop κ) Int) :=
  fun _ => rfl

/-- Writing a line feeds nothing. -/
theorem feeds_log (level : Level) (text : String) :
    Act.Feeds access (log level text : Act (Event Q ε) (σ × ρ × Store.Loop κ) Unit) :=
  Act.feeds_note rfl

/-- Marking the start of a response feeds nothing. -/
theorem feeds_markStart (r : Response) :
    Act.Feeds access ((l.feeding access).onSecond.markStart r :
      Act (Event Q ε) (σ × ρ × Store.Loop κ) Response) := by
  unfold markStart
  cases r.started with
  | some _ => exact Act.feeds_pure r
  | none => exact (feeds_readClock access l).bind fun n => Act.feeds_pure (r.markedAt n)

/-- Asking whether the exchange is left out feeds nothing. -/
theorem feeds_isSkipped (request : Request) (response : Response) :
    Act.Feeds access ((l.feeding access).onSecond.isSkipped request response :
      Act (Event Q ε) (σ × ρ × Store.Loop κ) Bool) := by
  unfold isSkipped onSecond feeding
  cases l.skip with
  | none => exact Act.feeds_pure false
  | some p =>
      have hasked : Act.Feeds access (Act.ask (Step.onSecond (Step.onFirst (p request response))) :
          Act (Event Q ε) (σ × ρ × Store.Loop κ) Value) := fun _ => rfl
      exact (Act.feeds_note rfl).bind fun _ => hasked.bind fun v => Act.feeds_pure v.truth

/-- Building the record feeds nothing. -/
theorem feeds_builtRecord (request : Request) (response : Response) :
    Act.Feeds access ((l.feeding access).onSecond.builtRecord request response :
      Act (Event Q ε) (σ × ρ × Store.Loop κ) Built) := by
  have hlines : ∀ lines : List LogLine,
      (lines.map Event.logged : List (Event Q ε)).filterMap Event.batch? = [] := by
    intro lines
    simp [Event.batch?]
  refine (Act.feeds_note rfl).bind fun _ p => ?_
  show p.2.2 = p.2.2.given access ((List.map Event.logged _).filterMap Event.batch?)
  rw [hlines]
  rfl

/-- The document is submitted when the events tell of it, and not before. -/
theorem feeds_submitRecord (b : Built) :
    Act.Feeds access ((l.feeding access).onSecond.submitRecord b :
      Act (Event Q ε) (σ × ρ × Store.Loop κ) Unit) := by
  intro p
  cases hl : b.literal with
  | error f =>
      rw [submitRecord_unshown hl]
      rfl
  | ok literal =>
      cases hd : b.document (l.feeding access).onSecond.omitAbsent with
      | error f =>
          rw [submitRecord_undocumented hl hd]
          rfl
      | ok d =>
          rw [submitRecord_apply hl hd]
          rfl

/-- Logging feeds the loop what it submits. -/
theorem feeds_logRequest (request : Request) (response : Response) :
    Act.Feeds access ((l.feeding access).onSecond.logRequest request response :
      Act (Event Q ε) (σ × ρ × Store.Loop κ) (Option Built)) := by
  have hexchange : Act.Feeds access ((l.feeding access).onSecond.logExchange request response :
      Act (Event Q ε) (σ × ρ × Store.Loop κ) (Option Built)) := by
    unfold logExchange
    refine (feeds_isSkipped access l request response).bind fun skipped => ?_
    split
    · exact (feeds_log access _ _).bind fun _ => Act.feeds_pure none
    · refine (feeds_builtRecord access l request response).bind fun b => ?_
      refine (Act.feeds_ofExcept b.isAbsent).bind fun isAbsent => ?_
      split
      · exact (feeds_log access _ _).bind fun _ => Act.feeds_pure none
      · exact (feeds_submitRecord access l b).bind fun _ => Act.feeds_pure (some b)
  unfold logRequest
  refine hexchange.attempt.bind fun r => ?_
  cases r with
  | ok b => exact Act.feeds_pure b
  | error f =>
      exact (Act.feeds_ofExcept _).bind fun _ => (feeds_log access _ _).bind fun _ =>
        Act.feeds_pure none

/-- Letting a message through feeds nothing. -/
theorem feeds_forward (r : Response) (m : Message) :
    Act.Feeds access ((l.feeding access).onSecond.forward
      (w.onFirst : Surroundings ε Q R (σ × ρ × Store.Loop κ)) r m) := by
  have hsend : Act.Feeds access
      ((w.onFirst : Surroundings ε Q R (σ × ρ × Store.Loop κ)).sendMessage m) := fun _ => rfl
  unfold forward
  split
  · exact Act.feeds_pure _
  · split
    · exact (feeds_markStart access l r).bind fun _ => hsend.bind fun _ => Act.feeds_pure _
    · exact hsend.bind fun _ => Act.feeds_pure _

/-- Watching an application feeds nothing. -/
theorem feeds_watch (app : App Q R) (r : Response) :
    Act.Feeds access ((l.feeding access).onSecond.watch
      (w.onFirst : Surroundings ε Q R (σ × ρ × Store.Loop κ)) app r) := by
  induction app generalizing r with
  | done => exact Act.feeds_pure _
  | fail f => exact Act.feeds_pure _
  | send m next ih => exact (feeds_forward access l w r m).bind fun x => ih x.2 x.1
  | receive next ih =>
      exact (Act.feeds_onFirst w.notes_receiveMessage).bind fun outcome => ih outcome r
  | ask q next ih =>
      exact (Act.feeds_onFirst (w.notes_answerQuestion q)).bind fun outcome => ih outcome r

/-- **Feeding.**  Serving a request does to the loop what submitting the batches does that its
events tell of. -/
theorem feeds_serve {scope : Scope} (h : scope.IsRequest) (app : App Q R) :
    Act.Feeds access ((l.feeding access).onSecond.serve
      (w.onFirst : Surroundings ε Q R (σ × ρ × Store.Loop κ)) scope app) := by
  obtain ⟨request, hrequest, -⟩ := Request.ofScope_ok h l.trustProxy
  cases hi : l.immediate with
  | true =>
      rw [(l.feeding access).onSecond.serve_immediate w.onFirst h.kind hi hrequest,
        App.call_onFirst]
      refine (feeds_readClock access l).bind fun n => ?_
      refine (feeds_markStart access l {}).bind fun response => ?_
      refine (feeds_logRequest access l _ response).bind fun _ => ?_
      exact Act.feeds_onFirst (app.notes_call w)
  | false =>
      rw [(l.feeding access).onSecond.serve_deferred w.onFirst h.kind hi hrequest]
      refine (feeds_readClock access l).bind fun n => ?_
      refine (feeds_watch access l w app {}).bind fun x => ?_
      exact (feeds_logRequest access l _ x.1).bind fun _ => Act.feeds_ofExcept x.2

end Feeding

/-! ### The batch of an exchange -/

section Batch

variable {l : Logger σ} {w : Surroundings ε Q R σ} {scope : Scope} {app : App Q R} {s s₁ : σ}
  {request : Request} {response : Response}

/-- A request that can be read is logged at some moment. -/
theorem exists_logsAt_of_ok (hr : Request.ofScope scope l.trustProxy = .ok request)
    (w : Surroundings ε Q R σ) (app : App Q R) (s : σ) :
    ∃ request response s₁, l.LogsAt w scope app s request response s₁ := by
  cases hi : l.immediate with
  | true => exact ⟨_, _, _, .arrival hi hr⟩
  | false =>
      obtain ⟨events, response, result, s₁, hw, -⟩ := l.watch_watched w app {} (l.clock s).2
      exact ⟨_, _, _, .finish hi hr hw⟩

/-- Every request is logged at some moment. -/
theorem exists_logsAt (h : scope.IsRequest) (l : Logger σ) (w : Surroundings ε Q R σ)
    (app : App Q R) (s : σ) :
    ∃ request response s₁, l.LogsAt w scope app s request response s₁ := by
  obtain ⟨request, hr, -⟩ := Request.ofScope_ok h l.trustProxy
  exact exists_logsAt_of_ok hr w app s

/-- All the logging there is comes from the moment at which the exchange is logged. -/
theorem LogsAt.filter_isLogging (hat : l.LogsAt w scope app s request response s₁)
    (h : scope.kind = some (.text "http")) :
    (l.serve w scope app s).events.filter Event.isLogging =
      ((l.logRequest request response : Act (Event Q ε) σ (Option Built)) s₁).events := by
  cases hat with
  | arrival hi hr => exact (logging_arrival h hi hr app s).2
  | @finish request response events outcome s₁ hi hr hw =>
      obtain ⟨events', response', result', s', hw', hwatched⟩ :=
        l.watch_watched w app {} (l.clock s).2
      rw [hw] at hw'
      cases hw'
      have hbefore : ∀ e ∈ Event.clockRead (l.clock s).1 :: events, e.isLogging = false := by
        simpa [Event.isLogging] using hwatched.not_isLogging
      have hlogging := isLogging_logRequest (ε := ε) (Q := Q) l (request.markedAt (l.clock s).1)
        response s₁
      rw [serve_finish h hi hr hw, List.filter_append, Event.filter_eq_nil hbefore,
        List.nil_append]
      exact List.filter_eq_self.mpr hlogging

/-- The document that is submitted is the one batch. -/
theorem LogsAt.submits_iff_batches (hat : l.LogsAt w scope app s request response s₁)
    (h : scope.kind = some (.text "http")) (d : Document) :
    l.Submits request response s₁ d ↔
      (l.serve w scope app s).events.filterMap Event.batch? = [[d]] := by
  obtain ⟨d?, f?, hcourse, -⟩ := course_logRequest (ε := ε) (Q := Q) l request response s₁
  rw [← Event.filterMap_filter (fun _ he => Event.batch?_eq_none he), hat.filter_isLogging h,
    hcourse.batches, hcourse.submits_iff]
  cases d? <;> simp

end Batch

/-- In an event loop a sink takes every batch, so nothing goes wrong in logging an exchange whose
document is submitted. -/
theorem logsInWords_of_batches {access : Store.Access κ} {l : Logger ρ} {w : Surroundings ε Q R σ}
    {scope : Scope} (h : scope.IsRequest) {app : App Q R} {p : σ × ρ × Store.Loop κ} {d : Document}
    (hbatches : ((l.feeding access).onSecond.serve w.onFirst scope app p).events.filterMap
      Event.batch? = [[d]]) :
    (l.feeding access).onSecond.LogsInWords w.onFirst scope app p := by
  intro request response p' f hat hf
  obtain ⟨p₁, b, ha, hb, hcarries, ⟨literal, hl⟩, hd⟩ :=
    (hat.submits_iff_batches h.kind d).mpr hbatches
  have hr : b.isAbsent = .ok false := Built.isAbsent_eq_false_iff.mpr hcarries
  have htaken : ∀ (documents : List Document) (p : σ × ρ × Store.Loop κ),
      ((l.feeding access).onSecond.submit documents p).1 = .ok () := fun _ _ => rfl
  rw [fails_admitted ha] at hf
  simp [hb, hr, hl, hd, htaken] at hf

end Logger

end RequestLog
