import RequestLog.Proofs.Service.Asking
import RequestLog.Proofs.Service.Shown

/-!
# How a request for records is answered

A route asks its questions and then answers (`Answered`, `handle_responds`) or fails, in which case
the service answers (`Failed`, `handle_fails`). A request for records with a parameter that cannot
be used is answered without a question (`handle_rejected`). Every other one asks the store once, and
what the store finds decides how it is answered (`Lists`, `handle_listed`). The main statement is
`lists_records`. A document with too many levels is stored, but not shown:
`deep_document_is_not_listed` is such a case.
-/

namespace RequestLog

variable {ε Q R σ : Type}

namespace Event

/-- The question, if the event is that one was asked. -/
def asked? : Event Q ε → Option Q
  | asked q => some q
  | _ => none

/-- The message that the server was given and what came of it, if the event is that it was given
one. -/
def sent? : Event Q ε → Option (Message × Except Fault Unit)
  | sent m outcome => some (m, outcome)
  | _ => none

/-- What is not between server and application is no question. -/
theorem asked?_eq_none {e : Event Q ε} (h : e.isExchange = false) : e.asked? = none := by
  cases e <;> first | rfl | cases h

/-- What is not between server and application sends nothing. -/
theorem sent?_eq_none {e : Event Q ε} (h : e.isExchange = false) : e.sent? = none := by
  cases e <;> first | rfl | cases h

/-- A question and its answering are one question. -/
theorem questions_asked (q : Q) (insides : List ε) :
    (asked q :: insides.map inside : List (Event Q ε)).filterMap asked? = [q] :=
  filterMap_asked (fun _ => rfl) q insides

/-- A question and its answering send nothing. -/
theorem sents_asked (q : Q) (insides : List ε) :
    (asked q :: insides.map inside : List (Event Q ε)).filterMap sent? = [] :=
  filterMap_asked (fun _ => rfl) q insides

/-- The starts are among what is sent. -/
theorem starts_eq (events : List (Event Q ε)) :
    events.filterMap start? = (events.filterMap sent?).filterMap fun p =>
      if p.1.isStart then some (p.1, p.2.isOk) else none := by
  rw [List.filterMap_filterMap]
  congr 1
  funext e
  cases e <;> rfl

end Event

namespace Service

/-! ### Responses -/

/-- The body of a response that is a value. -/
def jsonBody (v : Value) : Bytes := Text.Utf8.encode (Json.write v)

/-- The start of a response that is a value. -/
def jsonStart (status : Int) (v : Value) : Message :=
  startOf status [lengthHeader (jsonBody v), (ascii "content-type", ascii "application/json")]

/-- The messages are those of a response, with what came of each: its start, and its body in one
piece unless the server refuses the start. -/
inductive Responds (status : Int) (v : Value) : List (Message × Except Fault Unit) → Prop
  | started (outcome : Except Fault Unit) :
      Responds status v [(jsonStart status v, .ok ()), (bodyOf (jsonBody v), outcome)]
  | refused (f : Fault) : Responds status v [(jsonStart status v, .error f)]

/-- What is told of a fault that no route has answered for. -/
def failureShown (debug : Bool) (wording : String) : Value :=
  .mapping [("error", .text "Internal server error"),
    ("detail", if debug then .text wording else .absent), ("code", .text "INTERNAL_ERROR")]

/-- The messages are those of the response of a route. If the server refuses its start, the service
answers for that fault, as long as it has a wording. -/
inductive Delivers (debug : Bool) (status : Int) (v : Value) :
    List (Message × Except Fault Unit) → Prop
  | started (outcome : Except Fault Unit) :
      Delivers debug status v [(jsonStart status v, .ok ()), (bodyOf (jsonBody v), outcome)]
  | refused {f : Fault} {wording : String} {others : List (Message × Except Fault Unit)}
      (hwording : f.message = .ok wording) (h : Responds 500 (failureShown debug wording) others) :
      Delivers debug status v ((jsonStart status v, .error f) :: others)
  | unanswered {f g : Fault} (hwordless : f.message = .error g) :
      Delivers debug status v [(jsonStart status v, .error f)]

/-- These questions were asked, and the route has answered with a value. -/
structure Answered (debug : Bool) (questions : List Question) (status : Int) (v : Value)
    (events : List (Event Question ε)) : Prop where
  asked : events.filterMap Event.asked? = questions
  sent : Delivers debug status v (events.filterMap Event.sent?)

/-- These questions were asked, and the route has failed, which was reported in the wording of the
fault and answered in general terms. -/
structure Failed (debug : Bool) (questions : List Question) (f : Fault)
    (events : List (Event Question ε)) : Prop where
  asked : events.filterMap Event.asked? = questions
  told : ∃ wording, f.message = .ok wording ∧ .logged (unhandledLine wording) ∈ events ∧
    Responds 500 (failureShown debug wording) (events.filterMap Event.sent?)

section First

variable {status : Int} {v : Value} {sents : List (Message × Except Fault Unit)}

/-- A response begins with its start. -/
theorem Responds.first (h : Responds status v sents) :
    sents.head?.map (·.1) = some (jsonStart status v) := by
  cases h <;> rfl

/-- What is delivered begins with the start of the response. -/
theorem Delivers.first {debug : Bool} (h : Delivers debug status v sents) :
    sents.head?.map (·.1) = some (jsonStart status v) := by
  cases h <;> rfl

end First

/-- Where a route has failed, it has answered with no other status than that of a failure. -/
theorem Failed.status_eq {debug debug' : Bool} {questions questions' : List Question} {f : Fault}
    {status : Int} {v : Value} {events : List (Event Question ε)}
    (h : Failed debug questions f events) (h' : Answered debug' questions' status v events) :
    status = 500 := by
  obtain ⟨wording, -, -, hsent⟩ := h.told
  have hfirst := h'.sent.first.symm.trans hsent.first
  have hstatus := congrArg Message.status (Option.some.inj hfirst)
  exact Value.int.inj (Option.some.inj hstatus)

/-! ### Answers of a route and of the service -/

section Handling

variable {events : List (Event Question ε)} {result : Except Fault Unit}
  {questions : List Question} {status : Int} {v : Value} {f : Fault}

/-- After these questions, with nothing sent, the events go on as the application does. -/
def Reaches (questions : List Question) (app : Handler) (events : List (Event Question ε))
    (result : Except Fault Unit) : Prop :=
  ∃ before rest, events.filter Event.isExchange = before ++ rest ∧
    before.filterMap Event.asked? = questions ∧ before.filterMap Event.sent? = [] ∧
    app.Path rest result

namespace Reaches

/-- A question is one more question, whatever the answer to it. -/
theorem ask {q : Question} {next : Except Fault Reply → Handler}
    (h : Reaches questions (.ask q next) events result) :
    ∃ outcome, Reaches (questions ++ [q]) (next outcome) events result := by
  obtain ⟨before, rest, hevents, hasked, hsent, hpath⟩ := h
  cases hpath with
  | @ask q _ outcome insides rest _ hrest =>
      refine ⟨outcome, before ++ (.asked q :: insides.map .inside), rest, ?_, ?_, ?_, hrest⟩
      · rw [hevents, List.append_assoc]
      · rw [List.filterMap_append, hasked, Event.questions_asked]
      · rw [List.filterMap_append, hsent, Event.sents_asked, List.append_nil]

/-- What is asked and sent in the end: the questions before, and what the application does then. -/
theorem views {app : Handler} (h : Reaches questions app events result) :
    ∃ rest : List (Event Question ε), app.Path rest result ∧
      events.filterMap Event.asked? = questions ++ rest.filterMap Event.asked? ∧
      events.filterMap Event.sent? = rest.filterMap Event.sent? := by
  obtain ⟨before, rest, hevents, hasked, hsent, hpath⟩ := h
  refine ⟨rest, hpath, ?_, ?_⟩
  · rw [← Event.filterMap_filter (fun _ => Event.asked?_eq_none), hevents, List.filterMap_append,
      hasked]
  · rw [← Event.filterMap_filter (fun _ => Event.sent?_eq_none), hevents, List.filterMap_append,
      hsent, List.nil_append]

/-- An application that has failed asks and sends nothing more. -/
theorem of_fail (h : Reaches questions (.fail f) events result) :
    result = .error f ∧ events.filterMap Event.asked? = questions ∧
      events.filterMap Event.sent? = [] := by
  obtain ⟨rest, hpath, hasked, hsent⟩ := h.views
  cases hpath
  exact ⟨rfl, hasked.trans (List.append_nil _), hsent⟩

/-- An application that responds asks nothing more, and sends the start and then the body, unless
the start is refused. -/
theorem of_respond (h : Reaches questions (respondJson status [] v) events result) :
    events.filterMap Event.asked? = questions ∧
      ((∃ f, events.filterMap Event.sent? = [(jsonStart status v, .error f)] ∧
          result = .error f) ∨
        ∃ outcome, events.filterMap Event.sent? =
          [(jsonStart status v, .ok ()), (bodyOf (jsonBody v), outcome)]) := by
  obtain ⟨rest, hpath, hasked, hsent⟩ := h.views
  rcases path_respond hpath with ⟨f, rfl, hresult⟩ | ⟨outcome, rfl, -⟩
  · exact ⟨hasked.trans (List.append_nil _), .inl ⟨f, hsent, hresult⟩⟩
  · exact ⟨hasked.trans (List.append_nil _), .inr ⟨outcome, hsent⟩⟩

end Reaches

/-- The answer to a fault asks nothing and sends a response. -/
theorem views_failure (debug : Bool) (wording : String) (w : Surroundings ε Question Reply σ)
    (s : σ) :
    let answered := (failure debug wording).run w s
    answered.events.filterMap Event.asked? = [] ∧
      Responds 500 (failureShown debug wording) (answered.events.filterMap Event.sent?) := by
  intro answered
  obtain ⟨result, -, hpath⟩ := (failure debug wording).path_run w s
  rcases path_respond hpath with ⟨f, hevents, -⟩ | ⟨outcome, hevents, -⟩
  · rw [hevents]
    exact ⟨rfl, .refused f⟩
  · rw [hevents]
    exact ⟨rfl, .started outcome⟩

variable {service : Service} {l : Logger σ} {w : Surroundings ε Question Reply σ} {scope : Scope}
  {s : σ}

/-- The service asks nothing but what its route asks. -/
theorem asked_handle (service : Service) (l : Logger σ) (w : Surroundings ε Question Reply σ)
    (scope : Scope) (s : σ) :
    (service.handle l w scope s).events.filterMap Event.asked? =
      (l.serve w scope (route service.routes scope) s).events.filterMap Event.asked? := by
  cases hresult : (l.serve w scope (route service.routes scope) s).result with
  | ok u => rw [handle_of_ok hresult]
  | error f =>
      cases hwording : f.message with
      | error g => rw [handle_of_wordless hresult hwording]
      | ok wording =>
          rw [handle_of_error hresult hwording, List.filterMap_append,
            List.filterMap_cons_none rfl]
          split
          · rw [(views_failure ..).1, List.append_nil]
          · exact List.append_nil _

/-- A fault of a route that has started no answer is reported, and the server is given the answer to
it after what the route has sent. -/
theorem handle_unstarted {wording : String} (hwording : f.message = .ok wording)
    (hresult : (l.serve w scope (route service.routes scope) s).result = .error f)
    (hstart : (Answer.ofEvents
      (l.serve w scope (route service.routes scope) s).events).start = none) :
    let handled := service.handle l w scope s
    .logged (unhandledLine wording) ∈ handled.events ∧
      ∃ others, Responds 500 (failureShown service.debug wording) others ∧
        handled.events.filterMap Event.sent? =
          (l.serve w scope (route service.routes scope) s).events.filterMap Event.sent? ++
            others := by
  intro handled
  have hevents := handle_of_error hresult hwording
  simp only [hstart, Option.isNone_none, if_true] at hevents
  have hfailure := (views_failure service.debug wording w
    (l.serve w scope (route service.routes scope) s).state).2
  refine ⟨?_, _, hfailure, ?_⟩
  · rw [hevents]
    exact List.mem_append_right _ (.head _)
  · rw [hevents, List.filterMap_append, List.filterMap_cons_none rfl]

/-- A route that comes to a response after its questions answers with it. -/
theorem handle_responds
    (h : let served := l.serve w scope (route service.routes scope) s
      Reaches questions (respondJson status [] v) served.events served.result) :
    Answered service.debug questions status v (service.handle l w scope s).events := by
  obtain ⟨hasked, hsent⟩ := Reaches.of_respond h
  refine ⟨(asked_handle ..).trans hasked, ?_⟩
  rcases hsent with ⟨f, hrefused, hresult⟩ | ⟨outcome, hstarted⟩
  · have hstart : (Answer.ofEvents
        (l.serve w scope (route service.routes scope) s).events).start = none := by
      rw [Answer.start_ofEvents, Event.starts_eq, hrefused]
      rfl
    cases hwording : f.message with
    | error g =>
        rw [handle_of_wordless hresult hwording, hrefused]
        exact .unanswered hwording
    | ok wording =>
        obtain ⟨-, others, hothers, hsents⟩ := handle_unstarted hwording hresult hstart
        rw [hsents, hrefused]
        exact .refused hwording hothers
  · -- once a route has started an answer, the server is given nothing more
    have hstart : (Answer.ofEvents
        (l.serve w scope (route service.routes scope) s).events).start =
          some (jsonStart status v) := by
      rw [Answer.start_ofEvents, Event.starts_eq, hstarted]
      rfl
    rw [← Event.filterMap_filter (fun _ => Event.sent?_eq_none), handle_started hstart,
      Event.filterMap_filter (fun _ => Event.sent?_eq_none), hstarted]
    exact .started outcome

/-- A route that comes to a fault after its questions is answered for by the service, if the fault
has a wording. -/
theorem handle_fails (hworded : f.IsWorded)
    (h : let served := l.serve w scope (route service.routes scope) s
      Reaches questions (.fail f) served.events served.result) :
    Failed service.debug questions f (service.handle l w scope s).events := by
  obtain ⟨hresult, hasked, hsent⟩ := Reaches.of_fail h
  have hstart : (Answer.ofEvents
      (l.serve w scope (route service.routes scope) s).events).start = none := by
    rw [Answer.start_ofEvents, Event.starts_eq, hsent]
    rfl
  obtain ⟨wording, hwording⟩ := hworded
  obtain ⟨hreported, others, hothers, hsents⟩ := handle_unstarted hwording hresult hstart
  rw [hsent, List.nil_append] at hsents
  exact ⟨(asked_handle ..).trans hasked, wording, hwording, hreported, hsents ▸ hothers⟩

end Handling

/-! ### Requests for records -/

/-- How a request for records is answered, by what the store has found for its query: a page with
all documents, in their order, if they can be shown, and else one of three failures. What the store
fails with has to have a wording. -/
structure Lists (debug : Bool) (q : Store.Query) (limit skip : Int)
    (found : Except Fault (List Value)) (events : List (Event Question ε)) : Prop where
  listed {documents : List Value} (hfound : found = .ok documents)
    (hstored : ∀ v ∈ documents, IsStored v) (hshallow : ∀ v ∈ documents, IsShallow v) :
    ∃ rows, List.Forall₂ Shows documents rows ∧
      Answered debug [.records q] 200 (listing rows limit skip) events
  deep {documents : List Value} (hfound : found = .ok documents)
    (hstored : ∀ v ∈ documents, IsStored v) (hdeep : ∃ v ∈ documents, ¬IsShallow v) :
    Failed debug [.records q] .tooDeep events
  unavailable {f : Fault} {wording : String} (hfound : found = .error f)
    (hstore : f.isStoreFault = true) (hwording : f.message = .ok wording) :
    Answered debug [.records q, .log (queryFailed wording)] 503
      (.mapping [("detail", .text "Record store unavailable")]) events
  failed {f : Fault} (hfound : found = .error f) (hother : f.isStoreFault = false)
    (hworded : f.IsWorded) : Failed debug [.records q] f events

section Listing

variable {service : Service} {n : Int} {w : Surroundings ε Question Reply σ}
  {find : Store.Query → Act ε σ (List Value)} {scope : Scope} {others : List Route} {l : Logger σ}
  {s : σ}

/-- A query with a parameter that cannot be used is answered with what is wrong. -/
theorem handle_rejected {usualLimit : Value}
    (hroutes : service.routes = Route.all usualLimit ++ others)
    (hwords : l.LogsInWords w scope (route service.routes scope) s) (h : scope.IsRequest)
    (hmethod : scope.method = some (.text "GET")) (hpath : scope.path = some (.text "/logs"))
    {found : List (Issue × String)}
    (hread : Parameters.read (Text.Latin.decode (queryBytes scope)).toList = .error found) :
    let fields := Text.Percent.fields .kept (Text.Latin.decode (queryBytes scope)).toList
    Answered service.debug [] 422 (issues fields found) (service.handle l w scope s).events := by
  intro fields
  have hroute : route service.routes scope = respondJson 422 [] (issues fields found) := by
    rw [hroutes, route_logs hmethod hpath, records, hread]
  refine handle_responds ?_
  rw [hroute] at hwords ⊢
  obtain ⟨exchanged, result, hserves, hexchanged⟩ :=
    Logger.path_serve (l := l) (w := w) h (isTyped_respond _ _ _) s
  obtain ⟨hevents, hresult⟩ := hserves.in_words hwords
  exact ⟨[], exchanged, hevents, rfl, rfl, hresult ▸ hexchanged⟩

/-- A query whose parameters can be used is put to the store, and answered by what it finds. -/
theorem handle_listed (hroutes : service.routes = Route.all (.int n) ++ others)
    (hw : ∀ q, w.answer (.records q) = do return .records (← find q))
    (hwords : l.LogsInWords w scope (route service.routes scope) s) (h : scope.IsRequest)
    (hmethod : scope.method = some (.text "GET")) (hpath : scope.path = some (.text "/logs"))
    {p : Parameters}
    (hread : Parameters.read (Text.Latin.decode (queryBytes scope)).toList = .ok p) :
    let q := p.query (.int n)
    ∃ s', l.CallsIn w scope s s' ∧
      Lists service.debug q (p.limit.getD n) p.skip (find q s').result
        (service.handle l w scope s).events := by
  intro q
  have hroute : route service.routes scope = listRecords (.int n) p := by
    rw [hroutes, route_logs hmethod hpath, records, hread]
  obtain ⟨next, hnext⟩ : ∃ next, listRecords (.int n) p = .ask (.records q) next := ⟨_, rfl⟩
  have htyped : ∀ outcome, (next outcome).IsTyped := by
    have hanswers := (answers_listRecords (.int n) p).isTyped
    rw [hnext] at hanswers
    exact hanswers
  obtain ⟨s', rest, result, hcalls, hserves, hrest⟩ :=
    Logger.serve_ask (l := l) (w := w) (q := .records q) h htyped s
  have hresult : (w.answer (.records q) s').result = (find q s').result.map .records := by
    rw [hw q, Act.bind_pure_apply]
  rw [hresult] at hrest
  have hreaches : let served := l.serve w scope (route service.routes scope) s
      Reaches [.records q] (next ((find q s').result.map .records)) served.events
        served.result := by
    rw [hroute, hnext] at hwords ⊢
    obtain ⟨hevents, hserved⟩ := hserves.in_words hwords
    exact ⟨_, rest, hevents, Event.questions_asked _ _, Event.sents_asked _ _, hserved ▸ hrest⟩
  obtain rfl : _ = next := (App.ask.inj hnext).2
  have hlimit : (p.query (.int n)).limit = .int (p.limit.getD n) := by
    show (p.limit.map Value.int).getD (.int n) = _
    cases p.limit <;> rfl
  refine ⟨s', hcalls, ?_, ?_, ?_, ?_⟩
  · intro documents hfound hstored hshallow
    obtain ⟨rows, hrows, hpage, -⟩ := page_of_stored hstored (p.limit.getD n) p.skip
    refine ⟨rows, hrows, handle_responds ?_⟩
    simpa only [hfound, Except.map, hlimit, hpage hshallow] using hreaches
  · intro documents hfound hstored hdeep
    obtain ⟨rows, -, -, hpage⟩ := page_of_stored hstored (p.limit.getD n) p.skip
    refine handle_fails ⟨_, rfl⟩ ?_
    simpa only [hfound, Except.map, hlimit, hpage hdeep] using hreaches
  · intro f wording hfound hstore hwording
    simp only [hfound, Except.map, hstore, hwording, if_true] at hreaches
    obtain ⟨_, hresponds⟩ := Reaches.ask hreaches
    exact handle_responds hresponds
  · intro f hfound hother hworded
    simp only [hfound, Except.map, hother, Bool.false_eq_true, if_false] at hreaches
    exact handle_fails hworded hreaches

/-- **Requests for records.**  A request for records with a parameter that cannot be used is
answered with what is wrong, and the store is asked nothing. Every other one asks the store once,
for what its query names, and what the store finds in the state in which it is asked decides the
answer: a page of all that was found, one failure for a store that fails, and another one for all
else. For this what goes wrong in logging the request has to have a wording, as it has in the logger
of a service if it has in the sink (`LogsPlainly.logsInWords`). -/
theorem lists_records {env : Settings.Environment} {settings : Settings}
    (hset : setUp env settings others = .ok service) (hlimit : settings.queryLimit = .int n)
    (hw : ∀ q, w.answer (.records q) = do return .records (← find q))
    (hwords : l.LogsInWords w scope (route service.routes scope) s) (h : scope.IsRequest)
    (hmethod : scope.method = some (.text "GET")) (hpath : scope.path = some (.text "/logs")) :
    let events := (service.handle l w scope s).events
    let fields := Text.Percent.fields .kept (Text.Latin.decode (queryBytes scope)).toList
    (Rejects fields → ∃ found, found ≠ [] ∧
        Answered service.debug [] 422 (issues fields found) events) ∧
      (¬Rejects fields → ∃ q limit skip s', Asks fields n q limit skip ∧ l.CallsIn w scope s s' ∧
        Lists service.debug q limit skip (find q s').result events) := by
  intro events fields
  obtain ⟨-, hroutes⟩ := setUp_fields hset
  rw [hlimit] at hroutes
  rcases Parameters.read_cases (Text.Latin.decode (queryBytes scope)).toList with
    ⟨hrejects, found, hfound, hread⟩ | ⟨haccepts, p, hread, hasks⟩
  · refine ⟨fun _ => ⟨found, hfound, ?_⟩, fun haccepts => absurd hrejects haccepts⟩
    exact handle_rejected hroutes hwords h hmethod hpath hread
  · refine ⟨fun hrejects => absurd hrejects haccepts, fun _ => ?_⟩
    obtain ⟨s', hcalls, hlists⟩ := handle_listed hroutes hw hwords h hmethod hpath hread
    exact ⟨_, _, _, s', hasks n, hcalls, hlists⟩

end Listing

/-! ### A document that is found -/

/-- Surroundings that take every message and find these documents for every query. -/
def finding (documents : List Value) : Surroundings Unit Question Reply (Store.Sink Unit) where
  send _ s := (.ok (), s)
  receive s := (.ok {}, s)
  answer
    | .records _ => do return .records (← pure documents)
    | _ => pure .done

/-- A query is answered with the documents that are to be found. -/
theorem answer_finding (documents : List Value) (q : Store.Query) :
    (finding documents).answer (.records q) = do
      return .records (← (pure documents : Act Unit (Store.Sink Unit) (List Value))) := rfl

/-- A request for the records of a method and a status. -/
def namingScope : Scope :=
  { Scope.ofPath "/logs" with query := some (.bytes (ascii "method=get&status=0")) }

theorem isRequest_namingScope : namingScope.IsRequest :=
  { Scope.isRequest_ofPath "/logs" with
    query := fun _ hv => .inr ⟨_, (Option.some.inj hv).symm⟩ }

/-- A logger that builds nothing has nothing to go wrong. -/
theorem logsInWords_quiet {w : Surroundings ε Q R (Store.Sink Unit)} {scope : Scope} {app : App Q R}
    {s : Store.Sink Unit} : quiet.LogsInWords w scope app s := by
  intro request response s₁ f _ hfails
  have hadmitted : quiet.admission request response s₁ = some s₁ := rfl
  rw [Logger.fails_admitted hadmitted] at hfails
  rcases hfails with hbuild | ⟨b, hb, hread | ⟨hcarries, -⟩⟩
  · cases hbuild
  · cases hb
    cases hread
  · cases hb
    cases hcarries

/-- The logger of a plan, with a sink that takes everything. -/
def filing (plan : LoggerPlan Unit) : Logger (Store.Sink Unit) :=
  plan.logger (fun _ _ _ => pure (.value .absent)) (Registry.builtin Registry.plain)
    (fun s => (0, s)) ⟨2024, 5, 1, 12, 0, 0, 0, none⟩ fun _ s => (.ok (), s)

/-- The logger of the service with this usual limit. -/
def limitedLogger (n : Int) : Logger (Store.Sink Unit) :=
  { filing ((limitedService n).builtinPlan Format.default) with
    skip := some fun request _ s => ((request.urlBegins unloggedPath).map .bool, s) }

/-- The service makes this logger, and it logs in words. -/
theorem logsPlainly_limitedLogger (n : Int) :
    ((limitedService n).readyLogger filing {}).result = .ok (limitedLogger n) ∧
      LogsPlainly (limitedLogger n) := by
  have hdefault : ("default", .value (.text Format.default)) ∈
      (Format.builtin : List (String × Format.Spec Unit)) := by
    simp [Format.builtin]
  have hname : (limitedService n).settings.format = .text "default" := rfl
  obtain ⟨notices, kept, hready⟩ := readyLogger_ok hname hdefault filing
  have hl : LogsBy (limitedLogger n) Format.default := ⟨rfl, rfl, rfl, rfl, rfl⟩
  exact ⟨congrArg Outcome.result hready,
    hl.logsPlainly hdefault fun _ _ => failsInWords_ok _⟩

/-- A query whose parameters are read is not rejected. -/
theorem not_rejects_of_isOk {query : List Char} (h : (Parameters.read query).isOk) :
    ¬Rejects (Text.Percent.fields .kept query) := by
  rcases Parameters.read_cases query with ⟨-, found, -, hread⟩ | ⟨haccepts, -⟩
  · rw [hread] at h
    cases h
  · exact haccepts

/-- The one document that is found is shown. -/
theorem lists_records_one :
    let document : Value := .mapping [("_id", .int 7), ("status", .int 0)]
    let events := ((limitedService 5).handle (limitedLogger 5) (finding [document]) namingScope
      completeSink).events
    setUp Table.empty { queryLimit := .int 5 } = .ok (limitedService 5) ∧
      ((limitedService 5).readyLogger filing {}).result = .ok (limitedLogger 5) ∧
      (limitedLogger 5).LogsInWords (finding [document]) namingScope
        (route (limitedService 5).routes namingScope) completeSink ∧
      namingScope.IsRequest ∧ IsStored document ∧ IsShallow document ∧
      ∃ q rows limit skip, List.Forall₂ Shows [document] rows ∧
        Answered false [.records q] 200 (listing rows limit skip) events := by
  intro document events
  have hset : setUp Table.empty { queryLimit := .int 5 } = .ok (limitedService 5) := rfl
  have hstored : IsStored document := by
    refine .intro (by decide) ?_ (by simp [Json.isJson])
    intro v hv
    have hv : v = .int 7 := by simpa using hv
    exact ⟨"7", hv ▸ rfl⟩
  have hshallow : IsShallow document := .intro (by simp [Json.levels, Json.mostLevels])
  have hread : (Parameters.read (Text.Latin.decode (queryBytes namingScope)).toList).isOk := by
    decide +kernel
  obtain ⟨hready, hplainly⟩ := logsPlainly_limitedLogger 5
  have hwords : (limitedLogger 5).LogsInWords (finding [document]) namingScope
      (route (limitedService 5).routes namingScope) completeSink :=
    hplainly.logsInWords isRequest_namingScope (answers_route (answersOnce_all _) _) _
  obtain ⟨-, haccepted⟩ := lists_records hset rfl (answer_finding [document]) hwords
    isRequest_namingScope rfl rfl
  obtain ⟨q, limit, skip, s', -, -, hlists⟩ := haccepted (not_rejects_of_isOk hread)
  obtain ⟨rows, hrows, hanswered⟩ := hlists.listed rfl (by simpa using hstored)
    (by simpa using hshallow)
  exact ⟨hset, hready, hwords, isRequest_namingScope, hstored, hshallow, q, rows, limit, skip,
    hrows, hanswered⟩

/-! ### A document with too many levels -/

/-- Lists within each other, around an empty one. -/
def nested : Nat → Value
  | 0 => .list []
  | n + 1 => .list [nested n]

/-- Lists within each other are of the kinds that JSON has. -/
theorem isJson_nested (n : Nat) : Json.isJson (nested n) := by
  induction n with
  | zero => rfl
  | succ n ih => simp [nested, Json.isJson, Json.areJson, ih]

/-- Each list around another one is one level more. -/
theorem levels_nested (n : Nat) : Json.levels (nested n) = n + 1 := by
  induction n with
  | zero => rfl
  | succ n ih => simp [nested, Json.levels, Json.levelsOfItems, ih]

/-- A document with three hundred levels is stored, but a request that finds it fails. -/
theorem deep_document_is_not_listed :
    let document : Value := .mapping [("a", nested 299)]
    let scope := Scope.ofPath "/logs"
    let events := ((limitedService 1000).handle quiet (finding [document]) scope
      completeSink).events
    setUp Table.empty { queryLimit := .int 1000 } = .ok (limitedService 1000) ∧
      scope.IsRequest ∧ IsStored document ∧
      ¬Rejects (Text.Percent.fields .kept (Text.Latin.decode (queryBytes scope)).toList) ∧
      (∃ q, Failed false [.records q] .tooDeep events) ∧
      ∀ debug questions v, ¬Answered debug questions 200 v events := by
  intro document scope events
  have hscope : scope.IsRequest := Scope.isRequest_ofPath _
  have hstored : IsStored document := by
    refine .intro (by decide) ?_ ?_
    · intro v hv
      simp at hv
    · simpa using isJson_nested 299
  have hdeep : ¬IsShallow (.mapping [("a", nested 299)]) := by
    rintro ⟨hshallow⟩
    have hlevels := hshallow ("a", nested 299) (.head _) (by decide)
    rw [levels_nested] at hlevels
    exact absurd hlevels (by decide)
  have hread : Parameters.read (Text.Latin.decode (queryBytes scope)).toList = .ok {} := rfl
  have hroutes : (limitedService 1000).routes = Route.all (.int 1000) ++ [] := rfl
  obtain ⟨s', -, hlists⟩ :=
    handle_listed hroutes (answer_finding [document]) logsInWords_quiet hscope rfl rfl hread
  have hfailed := hlists.deep rfl (by simpa using hstored) (by simpa using hdeep)
  refine ⟨rfl, hscope, hstored, not_rejects_of_isOk rfl, ⟨_, hfailed⟩, ?_⟩
  intro debug questions v hanswered
  exact absurd (hfailed.status_eq hanswered) (by decide)

end Service

end RequestLog
