import RequestLog.Proofs.Logger.Steps

/-!
# Watched applications

`Forwarded` lists all that letting one message through can do to the response as the logger knows
it, and `Watched` strings this together along the tree of an application. Letting a message through
and watching an application always do one of these things (`forward_forwarded`, `watch_watched`),
so what holds of every `Watched` run holds of the logger, whatever clock and server do.
-/

namespace RequestLog

variable {ε Q R σ : Type}

/-- The response after its start was given to the server: the headers are sent if the server took
it. -/
def Response.sentWith (r : Response) (outcome : Except Fault Unit) : Response :=
  if outcome.isOk then { r with headersSent := .bool true } else r

namespace Logger

/-- What letting one message through notes, the response that is known then, and what the
application is told. -/
inductive Forwarded (r : Response) (m : Message) :
    List (Event Q ε) → Response → Except Fault Unit → Prop
  | untyped (hm : m.kind = none) : Forwarded r m [] r (.error (.missingKey "type"))
  | first {n : Int} {outcome : Except Fault Unit} (hm : m.isStart = true) (hr : r.started = none) :
      Forwarded r m [.clockRead n, .sent m outcome]
        (((r.markedAt n).captureStart m).sentWith outcome) outcome
  | again {n : Int} {outcome : Except Fault Unit} (hm : m.isStart = true)
      (hr : r.started = some n) :
      Forwarded r m [.sent m outcome] ((r.captureStart m).sentWith outcome) outcome
  | other {outcome : Except Fault Unit} (hm : m.isStart = false) :
      Forwarded r m [.sent m outcome]
        (if outcome.isOk && m.isLast then { r with finished := .bool true } else r) outcome

/-- What watching an application notes, the response that is known at the end, and how the
application ended. -/
inductive Watched : App Q R → Response → List (Event Q ε) → Response → Except Fault Unit → Prop
  | done {r : Response} : Watched .done r [] r (.ok ())
  | fail {f : Fault} {r : Response} : Watched (.fail f) r [] r (.error f)
  | send {m : Message} {next : Except Fault Unit → App Q R} {r r' r'' : Response}
      {events rest : List (Event Q ε)} {outcome result : Except Fault Unit}
      (hforward : Forwarded r m events r' outcome)
      (hrest : Watched (next outcome) r' rest r'' result) :
      Watched (.send m next) r (events ++ rest) r'' result
  | receive {next : Except Fault Message → App Q R} {r r' : Response}
      {outcome : Except Fault Message} {rest : List (Event Q ε)} {result : Except Fault Unit}
      (hrest : Watched (next outcome) r rest r' result) :
      Watched (.receive next) r (.received outcome :: rest) r' result
  | ask {q : Q} {next : Except Fault R → App Q R} {r r' : Response} {outcome : Except Fault R}
      {insides : List ε} {rest : List (Event Q ε)} {result : Except Fault Unit}
      (hrest : Watched (next outcome) r rest r' result) :
      Watched (.ask q next) r (.asked q :: insides.map .inside ++ rest) r' result

variable (l : Logger σ) (w : Surroundings ε Q R σ)

/-- Letting a message through does one of the things listed. -/
theorem forward_forwarded (r : Response) (m : Message) (s : σ) :
    ∃ events r' outcome s', l.forward w r m s = ⟨events, .ok (r', outcome), s'⟩ ∧
      Forwarded r m events r' outcome := by
  cases hkind : m.kind with
  | none =>
      rw [l.forward_untyped w hkind]
      exact ⟨[], r, _, s, rfl, .untyped hkind⟩
  | some kind =>
      cases hstart : m.isStart with
      | false =>
          rw [l.forward_other w (by rw [hkind]; rfl) hstart]
          exact ⟨_, _, _, _, Act.bind_of_ok (w.sendMessage_apply m s), .other hstart⟩
      | true =>
          rw [l.forward_start w hstart]
          cases hr : r.started with
          | none =>
              rw [Act.bind_of_ok (l.markStart_unmarked hr s)]
              exact ⟨_, _, _, _, congrArg _ (Act.bind_of_ok (w.sendMessage_apply m _)),
                .first hstart hr⟩
          | some n =>
              rw [Act.bind_of_ok (l.markStart_marked hr s)]
              exact ⟨_, _, _, _, congrArg _ (Act.bind_of_ok (w.sendMessage_apply m _)),
                .again hstart hr⟩

/-- Watching an application never fails, and is such a run of it. -/
theorem watch_watched (app : App Q R) (r : Response) (s : σ) :
    ∃ events r' result s', l.watch w app r s = ⟨events, .ok (r', result), s'⟩ ∧
      Watched app r events r' result := by
  induction app generalizing r s with
  | done => exact ⟨_, _, _, _, rfl, .done⟩
  | fail f => exact ⟨_, _, _, _, rfl, .fail⟩
  | send m next ih =>
      obtain ⟨events, r', outcome, s', hevents, hforward⟩ := l.forward_forwarded w r m s
      obtain ⟨rest, r'', result, s'', hwatch, hrest⟩ := ih outcome r' s'
      rw [watch, Act.bind_of_ok hevents]
      exact ⟨_, _, _, _, congrArg _ hwatch, .send hforward hrest⟩
  | receive next ih =>
      obtain ⟨rest, r', result, s', hwatch, hrest⟩ := ih (w.receive s).1 r (w.receive s).2
      rw [watch, Act.bind_of_ok (w.receiveMessage_apply s)]
      exact ⟨_, _, _, _, congrArg _ hwatch, .receive hrest⟩
  | ask q next ih =>
      obtain ⟨rest, r', result, s', hwatch, hrest⟩ :=
        ih (w.answer q s).result r (w.answer q s).state
      rw [watch, Act.bind_of_ok (w.answerQuestion_apply q s)]
      exact ⟨_, _, _, _, congrArg _ hwatch, .ask hrest⟩

/-! ### Watching is no logging -/

variable {r r' : Response} {events : List (Event Q ε)} {result : Except Fault Unit}

theorem Forwarded.not_isLogging {m : Message} {outcome : Except Fault Unit}
    (h : Forwarded r m events r' outcome) : ∀ e ∈ events, e.isLogging = false := by
  cases h <;> simp [Event.isLogging]

/-- Nothing is logged while an application is watched. -/
theorem Watched.not_isLogging {app : App Q R} (h : Watched app r events r' result) :
    ∀ e ∈ events, e.isLogging = false := by
  induction h with
  | done => simp
  | fail => simp
  | send hforward _ ih =>
      intro e he
      rcases List.mem_append.mp he with hsent | hrest
      · exact hforward.not_isLogging e hsent
      · exact ih e hrest
  | receive _ ih => simpa [Event.isLogging] using ih
  | @ask q _ _ _ _ insides _ _ _ ih =>
      intro e he
      rcases List.mem_append.mp he with hasked | hrest
      · exact Event.not_isLogging_of_isExchange (Event.isExchange_asked q insides e hasked)
      · exact ih e hrest

/-- What is between a watched application and the server is a path through the application. -/
theorem Watched.path {app : App Q R} (h : Watched app r events r' result) (happ : app.IsTyped) :
    app.Path (events.filter Event.isExchange) result := by
  induction h with
  | done => exact .done
  | fail => exact .fail
  | @send m next r r' r'' events rest outcome result hforward _ ih =>
      have hfilter : events.filter Event.isExchange = [.sent m outcome] := by
        cases hforward with
        | untyped hm => exact absurd happ.1 (by simp [hm])
        | first => rfl
        | again => rfl
        | other => rfl
      rw [List.filter_append, hfilter]
      exact .send (ih (happ.2 outcome))
  | receive _ ih => exact .receive (ih (happ _))
  | @ask q next r r' outcome insides rest result _ ih =>
      have hfilter : (Event.asked q :: insides.map Event.inside : List (Event Q ε)).filter
          Event.isExchange = .asked q :: insides.map .inside :=
        List.filter_eq_self.mpr (Event.isExchange_asked q insides)
      rw [List.filter_append, hfilter]
      exact .ask (ih (happ outcome))

/-! ### Serving -/

variable {l w} {scope : Scope} {request : Request}

/-- A request that is logged at its arrival: two readings of the clock, the logging, and then the
call of the application, unless a fault without a wording has ended the logging. -/
theorem serve_arrival (h : scope.kind = some (.text "http")) (hi : l.immediate = true)
    (hr : Request.ofScope scope l.trustProxy = .ok request) (app : App Q R) (s : σ) :
    let started := (l.clock s).1
    let reading := l.clock (l.clock s).2
    let logging : Outcome (Event Q ε) σ (Option Built) :=
      l.logRequest (request.markedAt started) (({} : Response).markedAt reading.1) reading.2
    l.serve w scope app s =
      Outcome.after (.clockRead started :: .clockRead reading.1 :: logging.events)
        (match logging.result with
          | .ok _ => app.call w logging.state
          | .error f => ⟨[], .error f, logging.state⟩) := by
  intro started reading logging
  rw [l.serve_immediate w h hi hr, Act.bind_of_ok (l.readClock_apply s),
    Act.bind_of_ok (l.markStart_unmarked rfl _), Act.bind_apply]
  cases hlogging : logging.result <;> simp [Outcome.after, started, reading, logging]

/-- A request that is logged at its end: a reading of the clock, the run of the application, and
then the logging. A fault that is left of the logging takes the place of what the application came
to. -/
theorem serve_finish (h : scope.kind = some (.text "http")) (hi : l.immediate = false)
    (hr : Request.ofScope scope l.trustProxy = .ok request) {app : App Q R} {s s₁ : σ}
    {events : List (Event Q ε)} {response : Response} {result : Except Fault Unit}
    (hw : l.watch w app {} (l.clock s).2 = ⟨events, .ok (response, result), s₁⟩) :
    let logging : Outcome (Event Q ε) σ (Option Built) :=
      l.logRequest (request.markedAt (l.clock s).1) response s₁
    l.serve w scope app s =
      ⟨.clockRead (l.clock s).1 :: events ++ logging.events, logging.result.bind fun _ => result,
        logging.state⟩ := by
  intro logging
  rw [l.serve_deferred w h hi hr, Act.bind_of_ok (l.readClock_apply s), Act.bind_of_ok hw]
  dsimp only
  rw [Act.bind_apply]
  cases hlogging : logging.result <;> simp [Outcome.after, logging, Except.bind]

end Logger

end RequestLog
