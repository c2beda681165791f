import RequestLog.Proofs.Run
import RequestLog.Proofs.Wording
import RequestLog.Service.Routes

/-!
# Applications that answer once

An application of the service asks its questions first and then, if it comes to that, sends one
response (`Answers`). Every way in which a request can be routed is such an application
(`answers_route`), so there is at most one start on a path through it, and a start that the server
refuses ends it with a fault (`Answers.starts`). What a client is given starts with the first start
that the server took (`Answer.start_ofEvents`).
-/

namespace RequestLog

variable {ε Q R : Type}

/-- The start of an answer is the first one that the server took. -/
theorem Answer.start_ofEvents (events : List (Event Q ε)) :
    (ofEvents events).start = ((events.filterMap Event.start?).find? (·.2)).map (·.1) := by
  unfold ofEvents
  induction events with
  | nil => rfl
  | cons e rest ih =>
      cases e with
      | sent m outcome =>
          cases outcome with
          | error f =>
              cases hm : m.isStart <;>
                simpa [List.filterMap_cons, Event.taken?, Event.start?, hm, Except.isOk,
                  Except.toBool] using ih
          | ok u =>
              cases hm : m.isStart with
              | true =>
                  simp [Event.taken?, Event.start?, hm, Except.isOk, Except.toBool]
              | false => simpa [List.filterMap_cons, Event.taken?, Event.start?, hm] using ih
      | _ => exact ih

/-- An answer that was started is not started again by what follows. -/
theorem Answer.start_append (events rest : List (Event Q ε)) :
    (ofEvents (events ++ rest)).start = (ofEvents events).start.or (ofEvents rest).start := by
  simp [ofEvents, List.filterMap_append, List.find?_append]

namespace Service

/-- The application asks, and then sends one response, or none. The status of the response is a
number that can be written. -/
inductive Answers : Handler → Prop
  | done : Answers .done
  | fail {f : Fault} : Answers (.fail f)
  | ask {q : Question} {next : Except Fault Reply → Handler} (h : ∀ reply, Answers (next reply)) :
      Answers (.ask q next)
  | respond {status : Int} {headers : List (Bytes × Bytes)} {body : Bytes}
      (hstatus : (Value.int status).IsWritable) : Answers (respond status headers body)

/-- Each of the route's applications answers once. -/
def Route.AnswersOnce (r : Route) : Prop := ∀ scope, Answers (r.handler scope)

/-! ### Every route answers once -/

/-- A listing asks the store, perhaps reports its failure, and answers once. -/
theorem answers_listRecords (usualLimit : Value) (p : Parameters) :
    Answers (listRecords usualLimit p) := by
  refine .ask fun reply => ?_
  cases reply with
  | error f =>
      dsimp only
      split
      · split
        · exact .ask fun _ => .respond ⟨_, rfl⟩
        · exact .fail
      · exact .fail
  | ok reply =>
      cases reply with
      | records documents =>
          dsimp only
          split
          · exact .respond ⟨_, rfl⟩
          · exact .fail
      | condition => exact .done
      | done => exact .done

/-- A request for records is answered once, whether its parameters can be used or not. -/
theorem answers_records (usualLimit : Value) (scope : Scope) :
    Answers (records usualLimit scope) := by
  unfold records
  dsimp only
  split
  · exact answers_listRecords _ _
  · exact .respond ⟨_, rfl⟩

/-- The question for the health is answered once. -/
theorem answers_health : Answers health := by
  refine .ask fun reply => ?_
  cases reply with
  | error f => exact .fail
  | ok reply =>
      cases reply with
      | condition configured pending now =>
          dsimp only
          split
          · exact .respond ⟨_, rfl⟩
          · exact .fail
      | records => exact .done
      | done => exact .done

/-- The routes of the service answer once. -/
theorem answersOnce_all (usualLimit : Value) : ∀ r ∈ Route.all usualLimit, r.AnswersOnce := by
  intro r hr scope
  simp only [Route.all, List.mem_cons, List.not_mem_nil, or_false] at hr
  rcases hr with rfl | rfl
  · exact answers_records usualLimit scope
  · exact answers_health

/-- However a request is routed, it is answered at most once. -/
theorem answers_route {routes : List Route} (h : ∀ r ∈ routes, r.AnswersOnce) (scope : Scope) :
    Answers (route routes scope) := by
  unfold route
  dsimp only
  split
  · rename_i r hr
    exact h r (List.mem_of_find?_eq_some hr) scope
  · split
    · exact .respond ⟨_, rfl⟩
    · split
      · split
        · split
          · exact .respond ⟨_, rfl⟩
          · exact .fail
        · exact .respond ⟨_, rfl⟩
      · exact .respond ⟨_, rfl⟩

/-! ### What is seen of an answer -/

theorem isTyped_respond (status : Int) (headers : List (Bytes × Bytes)) (body : Bytes) :
    (respond status headers body).IsTyped := by
  refine ⟨rfl, fun outcome => ?_⟩
  cases outcome with
  | error f => trivial
  | ok u =>
      refine ⟨rfl, fun outcome => ?_⟩
      cases outcome <;> trivial

/-- All messages of an application that answers once have a type. -/
theorem Answers.isTyped {app : Handler} (h : Answers app) : app.IsTyped := by
  induction h with
  | done => trivial
  | fail => trivial
  | ask _ ih => exact ih
  | respond _ => exact isTyped_respond _ _ _

variable {events : List (Event Question ε)} {result : Except Fault Unit}

/-- The message that starts a response. -/
def startOf (status : Int) (headers : List (Bytes × Bytes)) : Message :=
  { kind := some (.text "http.response.start"), status := some (.int status)
    headers := some headers }

/-- The message that holds the body of a response. -/
def bodyOf (body : Bytes) : Message :=
  { kind := some (.text "http.response.body"), body := some body }

/-- A response consists of its start, and of its body unless the server refuses the start. It ends
with a fault if the server refuses one of them. -/
theorem path_respond {status : Int} {headers : List (Bytes × Bytes)} {body : Bytes}
    (h : (respond status headers body).Path events result) :
    (∃ f, events = [.sent (startOf status headers) (.error f)] ∧ result = .error f) ∨
      ∃ outcome, events =
          [.sent (startOf status headers) (.ok ()), .sent (bodyOf body) outcome] ∧
        result = outcome := by
  cases h with
  | @send _ _ outcome _ _ hrest =>
      cases outcome with
      | error f =>
          cases hrest
          exact .inl ⟨f, rfl, rfl⟩
      | ok u =>
          cases hrest with
          | @send _ _ outcome _ _ hrest =>
              cases outcome <;> cases hrest <;> exact .inr ⟨_, rfl, rfl⟩

/-- A response is one start with its status; if the server refuses it, there is a fault. -/
theorem starts_respond {status : Int} {headers : List (Bytes × Bytes)} {body : Bytes}
    (h : (respond status headers body).Path events result) :
    ∃ m took, events.filterMap Event.start? = [(m, took)] ∧ m.status = some (.int status) ∧
      (took = false → ∃ f, result = .error f) := by
  rcases path_respond h with ⟨f, rfl, hresult⟩ | ⟨outcome, rfl, -⟩
  · exact ⟨_, _, rfl, rfl, fun _ => ⟨f, hresult⟩⟩
  · exact ⟨_, _, rfl, rfl, nofun⟩

/-- There is no start on a path through an application that answers once, or one with a number as
its status, which can be written; if the server refuses that, there is a fault. -/
theorem Answers.starts {app : Handler} (h : Answers app) (hpath : app.Path events result) :
    events.filterMap Event.start? = [] ∨
      ∃ m n took, events.filterMap Event.start? = [(m, took)] ∧ m.status = some (.int n) ∧
        (Value.int n).IsWritable ∧ (took = false → ∃ f, result = .error f) := by
  induction h generalizing events result with
  | done =>
      cases hpath
      exact .inl rfl
  | fail =>
      cases hpath
      exact .inl rfl
  | ask _ ih =>
      cases hpath with
      | ask hrest =>
          rw [List.filterMap_append, Event.starts_asked, List.nil_append]
          exact ih _ hrest
  | respond hwritable =>
      obtain ⟨m, took, hstarts, hstatus, hrefused⟩ := starts_respond hpath
      exact .inr ⟨m, _, took, hstarts, hstatus, hwritable, hrefused⟩

end Service

end RequestLog
