import RequestLog.App
import RequestLog.Proofs.Act

/-!
# Running applications

Running an application always comes to an end of its own (`run_ok`). What is noted until then is a
path through the application's tree (`App.Path`): at each step the application goes on with just
the outcome that the event shows (`path_run`). `App.call` is a call of an application without
anything between it and the server, which notes only what is between these (`notes_call`).
-/

namespace RequestLog

variable {ε Q R σ τ : Type}

namespace Event

/-- The event is one between the application and what surrounds it. -/
def isExchange : Event Q ε → Bool
  | asked _ | sent .. | received _ | inside _ => true
  | clockRead _ | skipAsked .. | buildAsked .. | submitted _ | logged _ => false

/-- The event is part of the logging of an exchange. -/
def isLogging : Event Q ε → Bool
  | skipAsked .. | buildAsked .. | submitted _ | logged _ => true
  | asked _ | sent .. | received _ | inside _ | clockRead _ => false

/-- The event is that the skip predicate was asked. -/
def isSkipAsked : Event Q ε → Bool
  | skipAsked .. => true
  | _ => false

/-- The event is that a record was built. -/
def isBuildAsked : Event Q ε → Bool
  | buildAsked .. => true
  | _ => false

/-- The documents that were given to the sink, if the event is that a batch was. -/
def batch? : Event Q ε → Option (List Document)
  | submitted documents => some documents
  | _ => none

/-- The message that was to start a response and whether the server took it, if the event is that
there was one. -/
def start? : Event Q ε → Option (Message × Bool)
  | sent m outcome => if m.isStart then some (m, outcome.isOk) else none
  | _ => none

/-- A question, with what happens until it is answered, is between the application and its
surroundings. -/
theorem isExchange_asked (q : Q) (insides : List ε) :
    ∀ e ∈ (asked q :: insides.map inside : List (Event Q ε)), e.isExchange := by
  intro e he
  rcases List.mem_cons.mp he with rfl | he
  · rfl
  · obtain ⟨x, -, rfl⟩ := List.mem_map.mp he
    rfl

/-- A view that shows nothing of what happens until a question is answered shows of a question what
it shows of its asking. -/
theorem filterMap_asked {α : Type} {view : Event Q ε → Option α} (h : ∀ x, view (inside x) = none)
    (q : Q) (insides : List ε) :
    (asked q :: insides.map inside : List (Event Q ε)).filterMap view =
      (view (asked q)).toList := by
  have hinsides : (insides.map inside : List (Event Q ε)).filterMap view = [] := by
    rw [List.filterMap_map]
    exact List.filterMap_eq_nil_iff.mpr fun x _ => h x
  rw [← List.singleton_append, List.filterMap_append, hinsides, List.append_nil]
  cases hview : view (asked q) <;> simp [hview]

/-- A question starts no response. -/
theorem starts_asked (q : Q) (insides : List ε) :
    (asked q :: insides.map inside : List (Event Q ε)).filterMap start? = [] :=
  filterMap_asked (fun _ => rfl) q insides

/-- A view that shows nothing of the other events shows the same of those that `p` holds of. -/
theorem filterMap_filter {α : Type} {p : Event Q ε → Bool} {view : Event Q ε → Option α}
    (h : ∀ e, p e = false → view e = none) (events : List (Event Q ε)) :
    (events.filter p).filterMap view = events.filterMap view := by
  rw [List.filterMap_filter]
  congr 1
  funext e
  cases he : p e with
  | true => rfl
  | false => exact (h e he).symm

/-- What is between the application and its surroundings is no logging. -/
theorem not_isLogging_of_isExchange {e : Event Q ε} (h : e.isExchange) : e.isLogging = false := by
  cases e <;> simp_all [isExchange, isLogging]

/-- What is logging is not between server and application. -/
theorem not_isExchange_of_isLogging {e : Event Q ε} (h : e.isLogging) : e.isExchange = false := by
  cases e <;> simp_all [isExchange, isLogging]

/-- What is not between server and application starts no response. -/
theorem start?_eq_none {e : Event Q ε} (h : e.isExchange = false) : e.start? = none := by
  cases e <;> first | rfl | cases h

/-- What is no logging submits nothing. -/
theorem batch?_eq_none {e : Event Q ε} (h : e.isLogging = false) : e.batch? = none := by
  cases e <;> first | rfl | cases h

/-- Nothing is started but between the application and its surroundings. -/
theorem starts_eq_nil {events : List (Event Q ε)} (h : ∀ e ∈ events, e.isExchange = false) :
    events.filterMap start? = [] :=
  List.filterMap_eq_nil_iff.mpr fun e he => start?_eq_none (h e he)

/-- Where there is no logging, there is no batch. -/
theorem batches_eq_nil {events : List (Event Q ε)} (h : ∀ e ∈ events, e.isLogging = false) :
    events.filterMap batch? = [] :=
  List.filterMap_eq_nil_iff.mpr fun e he => batch?_eq_none (h e he)

end Event

namespace App

/-- Calls an application with the server and its surroundings as they are. -/
def call (w : Surroundings ε Q R σ) (app : App Q R) : Act (Event Q ε) σ Unit := do
  Act.ofExcept (← app.run w)

/-- Every message that the application sends has a type. -/
def IsTyped : App Q R → Prop
  | .done => True
  | .fail _ => True
  | .send m next => m.kind.isSome ∧ ∀ outcome, (next outcome).IsTyped
  | .receive next => ∀ outcome, (next outcome).IsTyped
  | .ask _ next => ∀ outcome, (next outcome).IsTyped

/-- The events are what an application does that gets just the outcomes which they show, and ends
as the result says. -/
inductive Path : App Q R → List (Event Q ε) → Except Fault Unit → Prop
  | done : Path .done [] (.ok ())
  | fail {f : Fault} : Path (.fail f) [] (.error f)
  | send {m : Message} {next : Except Fault Unit → App Q R} {outcome : Except Fault Unit}
      {events : List (Event Q ε)} {result : Except Fault Unit}
      (rest : Path (next outcome) events result) :
      Path (.send m next) (.sent m outcome :: events) result
  | receive {next : Except Fault Message → App Q R} {outcome : Except Fault Message}
      {events : List (Event Q ε)} {result : Except Fault Unit}
      (rest : Path (next outcome) events result) :
      Path (.receive next) (.received outcome :: events) result
  | ask {q : Q} {next : Except Fault R → App Q R} {outcome : Except Fault R} {insides : List ε}
      {events : List (Event Q ε)} {result : Except Fault Unit}
      (rest : Path (next outcome) events result) :
      Path (.ask q next) (.asked q :: insides.map .inside ++ events) result

end App

/-- A server that counts the messages it is given and refuses the one with a number. -/
def Surroundings.refusing (n : Nat) : Surroundings Unit Unit Unit Nat where
  send _ k := (if k = n then .error (.reported .state "send failed") else .ok (), k + 1)
  receive k := (.ok {}, k)
  answer _ := pure ()

/-- The message that starts a response. -/
def Message.starting (status : Int) : Message :=
  { kind := some (.text "http.response.start"), status := some (.int status) }

/-- The message that ends a response without a body. -/
def Message.ending : Message := { kind := some (.text "http.response.body") }

/-- An application that starts a response, starts another one, and minds no refusal. -/
def App.startingTwice : App Unit Unit :=
  .send (.starting 200) fun _ => .send (.starting 500) fun _ => .send .ending fun _ => .done

namespace Surroundings

variable (w : Surroundings ε Q R σ)

/-- A message that is sent is noted with what came of it. -/
theorem sendMessage_apply (m : Message) (s : σ) :
    w.sendMessage m s = ⟨[.sent m (w.send m s).1], .ok (w.send m s).1, (w.send m s).2⟩ := rfl

/-- A message that is received is noted, and so is a failure to receive one. -/
theorem receiveMessage_apply (s : σ) :
    w.receiveMessage s = ⟨[.received (w.receive s).1], .ok (w.receive s).1, (w.receive s).2⟩ := rfl

/-- A question is noted, and then what happens where it is answered. -/
theorem answerQuestion_apply (q : Q) (s : σ) :
    w.answerQuestion q s = ⟨.asked q :: (w.answer q s).events.map .inside,
      .ok (w.answer q s).result, (w.answer q s).state⟩ := rfl

/-- Receiving is between server and application. -/
theorem notes_receiveMessage : w.receiveMessage.Notes (·.isExchange) := by
  intro s e he
  rw [receiveMessage_apply, List.mem_singleton] at he
  rw [he]
  rfl

/-- A question is the application's. -/
theorem notes_answerQuestion (q : Q) : (w.answerQuestion q).Notes (·.isExchange) := by
  intro s e he
  rw [answerQuestion_apply] at he
  exact Event.isExchange_asked q _ e he

end Surroundings

namespace App

variable (w : Surroundings ε Q R σ)

/-- A run goes on with what came of sending. -/
theorem run_send (m : Message) (next : Except Fault Unit → App Q R) (s : σ) :
    (App.send m next).run w s =
      ((next (w.send m s).1).run w (w.send m s).2).after [.sent m (w.send m s).1] := by
  rw [run]
  exact Act.bind_of_ok (w.sendMessage_apply m s)

/-- A run goes on with what was received. -/
theorem run_receive (next : Except Fault Message → App Q R) (s : σ) :
    (App.receive next).run w s =
      ((next (w.receive s).1).run w (w.receive s).2).after [.received (w.receive s).1] := by
  rw [run]
  exact Act.bind_of_ok (w.receiveMessage_apply s)

/-- A run goes on with the answer. -/
theorem run_ask (q : Q) (next : Except Fault R → App Q R) (s : σ) :
    (App.ask q next).run w s =
      ((next (w.answer q s).result).run w (w.answer q s).state).after
        (.asked q :: (w.answer q s).events.map .inside) := by
  rw [run]
  exact Act.bind_of_ok (w.answerQuestion_apply q s)

/-- An application that runs comes to an end, and what it does until then is a path through it. -/
theorem path_run (app : App Q R) (s : σ) :
    ∃ result, (app.run w s).result = .ok result ∧ app.Path (app.run w s).events result := by
  induction app generalizing s with
  | done => exact ⟨_, rfl, .done⟩
  | fail f => exact ⟨_, rfl, .fail⟩
  | send m next ih =>
      obtain ⟨result, hresult, hpath⟩ := ih (w.send m s).1 (w.send m s).2
      rw [run_send]
      exact ⟨result, hresult, .send hpath⟩
  | receive next ih =>
      obtain ⟨result, hresult, hpath⟩ := ih (w.receive s).1 (w.receive s).2
      rw [run_receive]
      exact ⟨result, hresult, .receive hpath⟩
  | ask q next ih =>
      obtain ⟨result, hresult, hpath⟩ := ih (w.answer q s).result (w.answer q s).state
      rw [run_ask]
      exact ⟨result, hresult, .ask hpath⟩

/-- A run never fails; it says how the application ended. -/
theorem run_ok (app : App Q R) (s : σ) : ∃ result, (app.run w s).result = .ok result := by
  obtain ⟨result, hresult, -⟩ := app.path_run w s
  exact ⟨result, hresult⟩

/-- A path consists of events between an application and its surroundings. -/
theorem Path.isExchange {app : App Q R} {events : List (Event Q ε)} {result : Except Fault Unit}
    (h : app.Path events result) : ∀ e ∈ events, e.isExchange := by
  induction h with
  | done => simp
  | fail => simp
  | send _ ih => simpa [Event.isExchange] using ih
  | receive _ ih => simpa [Event.isExchange] using ih
  | @ask q _ _ insides _ _ _ ih =>
      intro e he
      rcases List.mem_append.mp he with hasked | hrest
      · exact Event.isExchange_asked q insides e hasked
      · exact ih e hrest

/-- A call is a run whose end is the end of the call. -/
theorem call_apply {app : App Q R} {s : σ} {result : Except Fault Unit}
    (h : (app.run w s).result = .ok result) :
    app.call w s = ⟨(app.run w s).events, result, (app.run w s).state⟩ := by
  unfold call
  rw [Act.bind_apply, h]
  simp [Outcome.after]

/-- What happens in a call is a path through the application. -/
theorem path_call (app : App Q R) (s : σ) :
    app.Path (app.call w s).events (app.call w s).result := by
  obtain ⟨result, hresult, hpath⟩ := app.path_run w s
  rw [call_apply w hresult]
  exact hpath

/-- A call notes only what is between the application and its surroundings. -/
theorem notes_call (app : App Q R) : (app.call w).Notes (·.isExchange) := fun s =>
  (app.path_call w s).isExchange

end App

end RequestLog
