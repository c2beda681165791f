import RequestLog.Proofs.Logger.Once

/-!
# Transparency of the logger

Server and application work on one state, the parts of the logger on another one: the clock, the
skip predicate, the builder and the sink do what they like, but not to the server. `Act.Mimics`
compares an act on both states with one on the first alone, and `Act.Hidden` says that an act is
not seen from the first state at all. Logging is hidden whatever goes wrong in it
(`hidden_logRequest`), and letting an application run behind the logger mimics running it
(`mimics_watch`). The main statement, `serve_transparent`, is that a request which is served behind
a logger whose faults have a wording is served as if the application had been called directly.
-/

namespace RequestLog

variable {ε Q R σ τ α β γ δ : Type}

/-! ### Server and logger apart -/

/-- The surroundings of an application beside a state that they have nothing to do with. -/
def Surroundings.onFirst (w : Surroundings ε Q R σ) : Surroundings ε Q R (σ × τ) where
  send m := Step.onFirst (w.send m)
  receive := Step.onFirst w.receive
  answer q := (w.answer q).onFirst

/-- A logger beside a state that none of its parts has anything to do with. -/
def Logger.onSecond (l : Logger τ) : Logger (σ × τ) :=
  { l with
    clock := fun p => ((l.clock p.2).1, p.1, (l.clock p.2).2)
    skip := l.skip.map fun p request response => Step.onSecond (p request response)
    build := fun sight => (l.build sight).onSecond
    submit := fun documents => Step.onSecond (l.submit documents) }

namespace Act

/-- Seen from the first state, without the events of the logger, the act is another one, which
comes to the view of its value. -/
def Mimics (view : α → β) (m : Act (Event Q ε) (σ × τ) α) (n : Act (Event Q ε) σ β) : Prop :=
  ∀ s t, (m (s, t)).events.filter Event.isExchange = (n s).events ∧
    (m (s, t)).result.map view = (n s).result ∧ (m (s, t)).state.1 = (n s).state

/-- Nothing of the act is seen from the first state. -/
def Hidden (m : Act (Event Q ε) (σ × τ) α) : Prop :=
  ∀ s t, (m (s, t)).events.filter Event.isExchange = [] ∧ (m (s, t)).state.1 = s

/-! ### Hidden acts -/

/-- Giving a value is hidden. -/
theorem hidden_pure (a : α) : Hidden (pure a : Act (Event Q ε) (σ × τ) α) :=
  fun _ _ => ⟨rfl, rfl⟩

/-- Passing on a result is hidden. -/
theorem hidden_ofExcept (r : Except Fault α) :
    Hidden (ofExcept r : Act (Event Q ε) (σ × τ) α) :=
  fun _ _ => ⟨rfl, rfl⟩

/-- Asking a component of the second state is hidden. -/
theorem hidden_ask (step : Step τ α) :
    Hidden (ask (Step.onSecond step) : Act (Event Q ε) (σ × τ) α) :=
  fun _ _ => ⟨rfl, rfl⟩

/-- Noting an event of the logger is hidden. -/
theorem hidden_note {e : Event Q ε} (h : e.isExchange = false) :
    Hidden (note e : Act (Event Q ε) (σ × τ) Unit) :=
  fun _ _ => ⟨by simp [h], rfl⟩

/-- To attempt what is hidden is hidden. -/
theorem Hidden.attempt {m : Act (Event Q ε) (σ × τ) α} (hm : m.Hidden) : m.attempt.Hidden := hm

/-- Hidden acts one after the other are hidden. -/
theorem Hidden.bind {m : Act (Event Q ε) (σ × τ) α} {k : α → Act (Event Q ε) (σ × τ) β}
    (hm : m.Hidden) (hk : ∀ a, (k a).Hidden) : (m >>= k).Hidden := by
  intro s t
  obtain ⟨hevents, hstate⟩ := hm s t
  rw [bind_apply]
  cases (m (s, t)).result with
  | error f => exact ⟨hevents, hstate⟩
  | ok a =>
      obtain ⟨hevents', hstate'⟩ := hk a (m (s, t)).state.1 (m (s, t)).state.2
      refine ⟨?_, hstate'.trans hstate⟩
      simp only [Outcome.after_events, List.filter_append, hevents, List.nil_append]
      exact hevents'

/-- The lines that the builder writes are no events between server and application. -/
theorem hidden_mapEvents (m : Act LogLine τ α) :
    Hidden ((m.onSecond.mapEvents .logged) : Act (Event Q ε) (σ × τ) α) :=
  fun _ _ => ⟨by simp [Event.isExchange], rfl⟩

/-! ### Acts that mimic others -/

/-- A value mimics its view. -/
theorem mimics_pure {view : α → β} (a : α) :
    Mimics view (pure a : Act (Event Q ε) (σ × τ) α) (pure (view a)) :=
  fun _ _ => ⟨rfl, rfl, rfl⟩

/-- An act on the first state alone mimics itself. -/
theorem mimics_onFirst {n : Act (Event Q ε) σ α} (h : n.Notes (·.isExchange)) :
    Mimics id (n.onFirst : Act (Event Q ε) (σ × τ) α) n := by
  intro s t
  refine ⟨List.filter_eq_self.mpr (h s), ?_, rfl⟩
  rw [onFirst_apply]
  cases (n s).result <;> rfl

/-- Acts that mimic others step by step mimic their sequence. -/
theorem Mimics.bind {view : α → β} {view' : γ → δ} {m : Act (Event Q ε) (σ × τ) α}
    {n : Act (Event Q ε) σ β} {k : α → Act (Event Q ε) (σ × τ) γ} {k' : β → Act (Event Q ε) σ δ}
    (hm : m.Mimics view n) (hk : ∀ a, (k a).Mimics view' (k' (view a))) :
    (m >>= k).Mimics view' (n >>= k') := by
  intro s t
  obtain ⟨hevents, hresult, hstate⟩ := hm s t
  rw [bind_apply, bind_apply, ← hresult, ← hstate]
  cases (m (s, t)).result with
  | error f => exact ⟨hevents, rfl, rfl⟩
  | ok a =>
      obtain ⟨hevents', hresult', hstate'⟩ := hk a (m (s, t)).state.1 (m (s, t)).state.2
      refine ⟨?_, hresult', hstate'⟩
      rw [Outcome.after_events, List.filter_append, hevents]
      exact congrArg _ hevents'

/-- A hidden act in front that always comes to a value changes nothing. -/
theorem Hidden.bind_mimics {view : β → γ} {m : Act (Event Q ε) (σ × τ) α}
    {k : α → Act (Event Q ε) (σ × τ) β} {n : Act (Event Q ε) σ γ} (hm : m.Hidden)
    (hok : ∀ p, ∃ a, (m p).result = .ok a) (hk : ∀ a, (k a).Mimics view n) :
    (m >>= k).Mimics view n := by
  intro s t
  obtain ⟨hevents, hstate⟩ := hm s t
  obtain ⟨a, ha⟩ := hok (s, t)
  obtain ⟨t', ht'⟩ : ∃ t', (m (s, t)).state = (s, t') := ⟨_, Prod.ext hstate rfl⟩
  obtain ⟨hevents', hresult', hstate'⟩ := hk a s t'
  rw [bind_apply, ha, ht']
  refine ⟨?_, hresult', hstate'⟩
  rw [Outcome.after_events, List.filter_append, hevents, List.nil_append, hevents']

end Act

namespace Logger

variable (l : Logger τ)

/-! ### Logging is hidden -/

/-- Reading the clock is hidden. -/
theorem hidden_readClock :
    Act.Hidden ((l.onSecond : Logger (σ × τ)).readClock : Act (Event Q ε) (σ × τ) Int) :=
  fun _ _ => ⟨rfl, rfl⟩

/-- Writing a line is hidden. -/
theorem hidden_log (level : Level) (text : String) :
    Act.Hidden (log level text : Act (Event Q ε) (σ × τ) Unit) :=
  Act.hidden_note rfl

/-- Asking whether the exchange is left out is hidden. -/
theorem hidden_isSkipped (request : Request) (response : Response) :
    Act.Hidden ((l.onSecond : Logger (σ × τ)).isSkipped request response :
      Act (Event Q ε) (σ × τ) Bool) := by
  unfold isSkipped onSecond
  cases l.skip with
  | none => exact Act.hidden_pure false
  | some p =>
      exact (Act.hidden_note rfl).bind fun _ => (Act.hidden_ask _).bind fun v =>
        Act.hidden_pure v.truth

/-- Building the record is hidden. -/
theorem hidden_builtRecord (request : Request) (response : Response) :
    Act.Hidden ((l.onSecond : Logger (σ × τ)).builtRecord request response :
      Act (Event Q ε) (σ × τ) Built) :=
  (Act.hidden_note rfl).bind fun _ => Act.hidden_mapEvents _

/-- Submitting the document is hidden. -/
theorem hidden_submitRecord (b : Built) :
    Act.Hidden ((l.onSecond : Logger (σ × τ)).submitRecord b : Act (Event Q ε) (σ × τ) Unit) :=
  (Act.hidden_ofExcept _).bind fun _ => (hidden_log _ _).bind fun _ =>
    (Act.hidden_ofExcept _).bind fun _ => (Act.hidden_note rfl).bind fun _ => Act.hidden_ask _

/-- Logging the exchange is hidden, up to the report of a fault. -/
theorem hidden_logExchange (request : Request) (response : Response) :
    Act.Hidden ((l.onSecond : Logger (σ × τ)).logExchange request response :
      Act (Event Q ε) (σ × τ) (Option Built)) := by
  unfold logExchange
  refine (l.hidden_isSkipped request response).bind fun skipped => ?_
  split
  · exact (hidden_log _ _).bind fun _ => Act.hidden_pure none
  · refine (l.hidden_builtRecord request response).bind fun b => ?_
    refine (Act.hidden_ofExcept b.isAbsent).bind fun isAbsent => ?_
    split
    · exact (hidden_log _ _).bind fun _ => Act.hidden_pure none
    · exact (l.hidden_submitRecord b).bind fun _ => Act.hidden_pure (some b)

/-- Whatever skip predicate, builder and sink do, neither server nor application see it. -/
theorem hidden_logRequest (request : Request) (response : Response) :
    Act.Hidden ((l.onSecond : Logger (σ × τ)).logRequest request response :
      Act (Event Q ε) (σ × τ) (Option Built)) := by
  unfold logRequest
  refine (l.hidden_logExchange request response).attempt.bind fun r => ?_
  cases r with
  | ok b => exact Act.hidden_pure b
  | error f =>
      exact (Act.hidden_ofExcept _).bind fun _ =>
        (hidden_log _ _).bind fun _ => Act.hidden_pure none

/-- Marking the start of a response is hidden. -/
theorem hidden_markStart (r : Response) :
    Act.Hidden ((l.onSecond : Logger (σ × τ)).markStart r : Act (Event Q ε) (σ × τ) Response) := by
  unfold markStart
  cases r.started with
  | some _ => exact Act.hidden_pure r
  | none => exact l.hidden_readClock.bind fun n => Act.hidden_pure (r.markedAt n)

end Logger

/-! ### Applications behind the logger -/

namespace Surroundings

variable (w : Surroundings ε Q R σ)

/-- The server is given a message and its outcome is known, whatever else is. -/
theorem mimics_sendMessage (m : Message) (known : Except Fault Unit → Response) :
    Act.Mimics Prod.snd
      (do
        let outcome ← (w.onFirst : Surroundings ε Q R (σ × τ)).sendMessage m
        return (known outcome, outcome))
      (w.sendMessage m) := by
  intro s t
  rw [Act.bind_of_ok (sendMessage_apply _ m (s, t)), sendMessage_apply]
  exact ⟨rfl, rfl, rfl⟩

end Surroundings

/-- An application runs beside another state as it runs without it. -/
theorem App.run_onFirst (w : Surroundings ε Q R σ) (app : App Q R) :
    app.run (w.onFirst : Surroundings ε Q R (σ × τ)) = (app.run w).onFirst := by
  funext ⟨s, t⟩
  induction app generalizing s with
  | done => rfl
  | fail f => rfl
  | send m next ih =>
      rw [run_send, Act.onFirst_apply, run_send]
      exact congrArg _ (ih _ _)
  | receive next ih =>
      rw [run_receive, Act.onFirst_apply, run_receive]
      exact congrArg _ (ih _ _)
  | ask q next ih =>
      rw [run_ask, Act.onFirst_apply, run_ask]
      exact congrArg _ (ih _ _)

/-- An application is called beside another state as it is called without it. -/
theorem App.call_onFirst (w : Surroundings ε Q R σ) (app : App Q R) :
    app.call (w.onFirst : Surroundings ε Q R (σ × τ)) = (app.call w).onFirst := by
  funext ⟨s, t⟩
  obtain ⟨result, hresult⟩ := app.run_ok w s
  rw [Act.onFirst_apply, call_apply w hresult]
  have hboth : (app.run (w.onFirst : Surroundings ε Q R (σ × τ)) (s, t)).result = .ok result := by
    rw [run_onFirst, Act.onFirst_apply, hresult]
  rw [call_apply _ hboth, run_onFirst]
  rfl

namespace Logger

variable (l : Logger τ) (w : Surroundings ε Q R σ)

/-- The server gets a message from the logger as from the application, and the application gets
the server's outcome. -/
theorem mimics_forward {m : Message} (h : m.kind.isSome) (r : Response) :
    Act.Mimics Prod.snd (l.onSecond.forward w.onFirst r m) (w.sendMessage m) := by
  cases hstart : m.isStart with
  | false =>
      rw [forward_other _ _ h hstart]
      exact w.mimics_sendMessage m _
  | true =>
      rw [forward_start _ _ hstart]
      exact (l.hidden_markStart r).bind_mimics (l.onSecond.markStart_ok r) fun r' =>
        w.mimics_sendMessage m _

/-- An application that runs behind the logger does with the server what it does without it. -/
theorem mimics_watch {app : App Q R} (h : app.IsTyped) (r : Response) :
    Act.Mimics Prod.snd (l.onSecond.watch w.onFirst app r) (app.run w) := by
  induction app generalizing r with
  | done => exact Act.mimics_pure (r, Except.ok ())
  | fail f => exact Act.mimics_pure (r, Except.error f)
  | send m next ih =>
      exact (l.mimics_forward w h.1 r).bind fun x => ih x.2 (h.2 x.2) x.1
  | receive next ih =>
      exact (Act.mimics_onFirst w.notes_receiveMessage).bind fun outcome =>
        ih outcome (h outcome) r
  | ask q next ih =>
      exact (Act.mimics_onFirst (w.notes_answerQuestion q)).bind fun outcome =>
        ih outcome (h outcome) r

/-- A request that is logged in words at its arrival is served as the application is called without
the logger. -/
theorem arrival_mimics {scope : Scope} (h : scope.IsRequest) (hi : l.immediate = true)
    {app : App Q R} {s : σ} {t : τ} (hwords : l.onSecond.LogsInWords w.onFirst scope app (s, t)) :
    let served := l.onSecond.serve w.onFirst scope app (s, t)
    served.events.filter Event.isExchange = (app.call w s).events ∧
      served.result = (app.call w s).result ∧ served.state.1 = (app.call w s).state := by
  intro served
  obtain ⟨request, hr, -⟩ := Request.ofScope_ok h l.trustProxy
  let logging : Outcome (Event Q ε) (σ × τ) (Option Built) :=
    l.onSecond.logRequest (request.markedAt (l.clock t).1)
      (({} : Response).markedAt (l.clock (l.clock t).2).1) (s, (l.clock (l.clock t).2).2)
  obtain ⟨hquiet, hstate⟩ : logging.events.filter Event.isExchange = [] ∧ logging.state.1 = s :=
    l.hidden_logRequest _ _ s _
  have hserved : served = Outcome.after
      (.clockRead (l.clock t).1 :: .clockRead (l.clock (l.clock t).2).1 :: logging.events)
      ((app.call w).onFirst logging.state) := by
    obtain ⟨b, hb⟩ := hwords.logRequest_ok (.arrival hi hr)
    refine (serve_arrival (l := l.onSecond) h.kind hi hr app (s, t)).trans ?_
    rw [hb, App.call_onFirst]
    rfl
  clear_value logging
  obtain ⟨t', ht'⟩ : ∃ t', logging.state = (s, t') := ⟨_, Prod.ext hstate rfl⟩
  rw [hserved, ht', Act.onFirst_apply]
  refine ⟨?_, rfl, rfl⟩
  rw [Outcome.after_events, List.filter_append, List.filter_eq_self.mpr (app.notes_call w s)]
  simp [Event.isExchange, hquiet]

/-- A request that is logged in words at its end is served as the application is called without the
logger. -/
theorem finish_mimics {scope : Scope} (h : scope.IsRequest) (hi : l.immediate = false)
    {app : App Q R} (happ : app.IsTyped) {s : σ} {t : τ}
    (hwords : l.onSecond.LogsInWords w.onFirst scope app (s, t)) :
    let served := l.onSecond.serve w.onFirst scope app (s, t)
    served.events.filter Event.isExchange = (app.call w s).events ∧
      served.result = (app.call w s).result ∧ served.state.1 = (app.call w s).state := by
  intro served
  obtain ⟨request, hr, -⟩ := Request.ofScope_ok h l.trustProxy
  obtain ⟨events, response, result, p, hw, -⟩ :=
    l.onSecond.watch_watched w.onFirst app {} (s, (l.clock t).2)
  obtain ⟨hevents, hresult, hstate⟩ := l.mimics_watch w happ {} s (l.clock t).2
  rw [hw] at hevents hresult hstate
  obtain ⟨b, hb⟩ := hwords.logRequest_ok (.finish hi hr hw)
  obtain ⟨hlogging, hlogged⟩ := l.hidden_logRequest (ε := ε) (Q := Q)
    (request.markedAt (l.clock t).1) response p.1 p.2
  have hserved : served = _ := serve_finish (l := l.onSecond) h.kind hi hr hw
  rw [hb] at hserved
  rw [hserved, App.call_apply w hresult.symm]
  refine ⟨?_, rfl, hlogged.trans hstate⟩
  rw [List.filter_append]
  exact (congrArg₂ (· ++ ·) hevents hlogging).trans (List.append_nil _)

/-- A request that is logged in words is served behind the logger as the application is called
without it. -/
theorem serve_mimics {scope : Scope} (h : scope.IsRequest) {app : App Q R}
    (happ : l.immediate = false → app.IsTyped) {s : σ} {t : τ}
    (hwords : l.onSecond.LogsInWords w.onFirst scope app (s, t)) :
    let served := l.onSecond.serve w.onFirst scope app (s, t)
    served.events.filter Event.isExchange = (app.call w s).events ∧
      served.result = (app.call w s).result ∧ served.state.1 = (app.call w s).state := by
  cases hi : l.immediate with
  | true => exact l.arrival_mimics w h hi hwords
  | false => exact l.finish_mimics w h hi (happ hi) hwords

/-- **Transparency.**  A request is served behind the logger as by a direct call of the application,
if what goes wrong in logging it has a wording and, unless it is logged at its arrival, the messages
of the application have a type: the server gets the same messages and answers them alike, what the
application does is a path along just these outcomes, and the call ends as the application does.
What is no request passes through, with no event of the logger and its state as it was. -/
theorem serve_transparent (scope : Scope) (app : App Q R) (s : σ) (t : τ) :
    (scope.IsRequest → (l.immediate = false → app.IsTyped) →
      l.onSecond.LogsInWords w.onFirst scope app (s, t) →
      let served := l.onSecond.serve w.onFirst scope app (s, t)
      let direct := app.call w s
      served.events.filter Event.isExchange = direct.events ∧
        app.Path (served.events.filter Event.isExchange) served.result ∧
        served.result = direct.result ∧ served.state.1 = direct.state) ∧
    (∀ kind, scope.kind = some kind → kind.text? ≠ some "http" →
      let served := l.onSecond.serve w.onFirst scope app (s, t)
      let direct := app.call w s
      served.events = direct.events ∧ served.result = direct.result ∧
        served.state = (direct.state, t)) := by
  constructor
  · intro hscope happ hwords
    obtain ⟨hevents, hresult, hstate⟩ := l.serve_mimics w hscope happ hwords
    refine ⟨hevents, ?_, hresult, hstate⟩
    rw [hevents, hresult]
    exact app.path_call w s
  · intro kind hkind hother
    rw [l.onSecond.serve_other w.onFirst hkind hother, App.call_onFirst]
    exact ⟨rfl, rfl, rfl⟩

/-- A server that refuses the second message, behind a logger whose skip predicate fails. -/
theorem serve_transparent_refusing :
    let failing : Logger Nat := { ofStatus with skip := some fun _ _ n => (.error .nothingRuns, n) }
    let server : Surroundings Unit Unit Unit Nat := .refusing 1
    let served := failing.onSecond.serve server.onFirst (.ofPath "/logs") .startingTwice (0, 0)
    let passed := failing.onSecond.serve server.onFirst { kind := some (.text "lifespan") }
      .startingTwice (0, 0)
    (Scope.ofPath "/logs").IsRequest ∧ App.startingTwice.IsTyped ∧
      failing.onSecond.LogsInWords server.onFirst (.ofPath "/logs") .startingTwice (0, 0) ∧
      (served.events.filter Event.isExchange).length = 3 ∧ served.state.1 = 3 ∧
      passed.events.length = 3 ∧ passed.state = (3, 0) := by
  intro failing server served passed
  have hwords :
      failing.onSecond.LogsInWords server.onFirst (.ofPath "/logs") .startingTwice (0, 0) := by
    intro request response s₁ f _ hf
    obtain ⟨p, s', hp, hfault⟩ := (fails_unadmitted rfl f).mp hf
    obtain rfl := Option.some.inj hp
    cases hfault
    exact ⟨_, rfl⟩
  have htyped : App.startingTwice.IsTyped := ⟨rfl, fun _ => ⟨rfl, fun _ => ⟨rfl, fun _ => trivial⟩⟩⟩
  obtain ⟨hserved, -, -, hstate⟩ :=
    (failing.serve_transparent server (.ofPath "/logs") .startingTwice 0 0).1
      (Scope.isRequest_ofPath _) (fun _ => htyped) hwords
  obtain ⟨hpassed, -, hstate'⟩ :=
    (failing.serve_transparent server { kind := some (.text "lifespan") } .startingTwice 0 0).2
      (.text "lifespan") rfl (by decide)
  refine ⟨Scope.isRequest_ofPath _, htyped, hwords, ?_, hstate, ?_, hstate'⟩
  · rw [hserved]
    rfl
  · rw [hpassed]
    rfl

/-- A message without a type does not reach the server behind the logger, and a skip predicate that
fails with a fault that has no wording takes the place of what the application came to. -/
theorem untyped_and_unworded_show :
    let mute : Logger Nat :=
      { ofStatus with
        skip := some fun _ _ n => (.error (.wordless .value .integerUnwritable), n) }
    let server : Surroundings Unit Unit Unit Nat := .refusing 3
    let untyped : App Unit Unit := .send {} fun _ => .done
    let typed : App Unit Unit := .send (.starting 200) fun _ => .done
    ((untyped.call server 0).events.length = 1 ∧
      (ofStatus.onSecond.serve server.onFirst (.ofPath "/logs") untyped (0, 0)).events.filter
        Event.isExchange = []) ∧
    (typed.call server 0).result = .ok () ∧
      (mute.onSecond.serve server.onFirst (.ofPath "/logs") typed (0, 0)).result =
        .error .integerUnwritable :=
  ⟨⟨rfl, rfl⟩, rfl, rfl⟩

end Logger

end RequestLog
