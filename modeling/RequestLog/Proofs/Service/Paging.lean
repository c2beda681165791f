import RequestLog.Proofs.Logger.Once
import RequestLog.Proofs.Service.Status
import RequestLog.Proofs.Store.Search
import RequestLog.Store.Sink

/-!
# Pages as they are asked for

A query for records passes three places, each with its own idea of a limit that is missing: the
route takes the usual limit of the settings if none is given, and the search takes a thousand for a
limit of zero. An answer with records comes from one search (`handled_search`), and it says the
limit that the route had in mind (`page_ok`). The main statement is `page_reports_query`: this is
the limit that the store is asked for, unless it is zero; `zero_limit_is_not_asked` is such a case.
-/

namespace RequestLog

variable {ε Q R σ τ : Type}

namespace Event

/-- What happened where a question was answered, if the event is that something did. -/
def inside? : Event Q ε → Option ε
  | inside e => some e
  | _ => none

/-- The part of a body that the server was given, if the event is that it was given one. -/
def body? : Event Q ε → Option Bytes
  | sent m _ => m.body
  | _ => none

/-- What is not between server and application does not happen where questions are answered. -/
theorem inside?_eq_none {e : Event Q ε} (h : e.isExchange = false) : e.inside? = none := by
  cases e <;> first | rfl | cases h

/-- What is not between server and application is no part of a body. -/
theorem body?_eq_none {e : Event Q ε} (h : e.isExchange = false) : e.body? = none := by
  cases e <;> first | rfl | cases h

/-- The events inside of a question that is asked are those that answering it notes. -/
theorem insides_asked (q : Q) (insides : List ε) :
    (asked q :: insides.map inside : List (Event Q ε)).filterMap inside? = insides := by
  show (insides.map inside : List (Event Q ε)).filterMap inside? = insides
  rw [List.filterMap_map]
  exact List.filterMap_some

/-- No part of a body is sent where a question is answered. -/
theorem bodies_asked (q : Q) (insides : List ε) :
    (asked q :: insides.map inside : List (Event Q ε)).filterMap body? = [] :=
  filterMap_asked (fun _ => rfl) q insides

end Event

/-! ### An application that asks first -/

variable {w : Surroundings ε Q R σ} {q : Q} {next : Except Fault R → App Q R}

/-- A call of an application that begins with a question: the question is answered, and the
application goes on with this answer. -/
theorem App.call_ask (w : Surroundings ε Q R σ) (q : Q) (next : Except Fault R → App Q R) (s : σ) :
    ∃ rest, ((App.ask q next).call w s).events =
        (.asked q :: (w.answer q s).events.map .inside) ++ rest ∧
      (next (w.answer q s).result).Path rest ((App.ask q next).call w s).result := by
  obtain ⟨result, hresult, hpath⟩ := (next (w.answer q s).result).path_run w (w.answer q s).state
  have hrun := App.run_ask w q next s
  have hask : ((App.ask q next).run w s).result = .ok result := by
    rw [hrun]
    exact hresult
  rw [App.call_apply w hask, hrun]
  exact ⟨_, rfl, hpath⟩

namespace Logger

variable {l : Logger σ} {scope : Scope}

/-- The state in which a request is handed to the application: the one after the logging in
immediate mode, and else the one after the arrival was marked. -/
inductive CallsIn (l : Logger σ) (w : Surroundings ε Q R σ) (scope : Scope) (s : σ) : σ → Prop
  | logged {request : Request} (hi : l.immediate = true)
      (hr : Request.ofScope scope l.trustProxy = .ok request) :
      CallsIn l w scope s (l.logRequest (request.markedAt (l.clock s).1)
        (({} : Response).markedAt (l.clock (l.clock s).2).1) (l.clock (l.clock s).2).2 :
          Outcome (Event Q ε) σ (Option Built)).state
  | marked (hi : l.immediate = false) : CallsIn l w scope s (l.clock s).2

/-- Serving shows these events between server and application and comes to this result, if what goes
wrong in logging has a wording. Whatever goes wrong, it shows these events or none. -/
structure ServesAs (l : Logger σ) (w : Surroundings ε Q R σ) (scope : Scope) (app : App Q R) (s : σ)
    (exchanged : List (Event Q ε)) (result : Except Fault Unit) : Prop where
  shown : (l.serve w scope app s).events.filter Event.isExchange = exchanged ∨
    (l.serve w scope app s).events.filter Event.isExchange = []
  in_words (h : l.LogsInWords w scope app s) :
    (l.serve w scope app s).events.filter Event.isExchange = exchanged ∧
      (l.serve w scope app s).result = result

/-- Behind the logging at its arrival a request is served by a call of the application. -/
theorem exists_call (h : scope.IsRequest) (hi : l.immediate = true) (app : App Q R) (s : σ) :
    ∃ s', l.CallsIn w scope s s' ∧
      l.ServesAs w scope app s (app.call w s').events (app.call w s').result := by
  obtain ⟨request, hr, -⟩ := Request.ofScope_ok h l.trustProxy
  have hserved : l.serve w scope app s = _ := serve_arrival h.kind hi hr app s
  have hlogging := not_isExchange_logRequest (ε := ε) (Q := Q) l
    (request.markedAt (l.clock s).1) (({} : Response).markedAt (l.clock (l.clock s).2).1)
    (l.clock (l.clock s).2).2
  have hcalls : l.CallsIn w scope s _ := .logged hi hr
  have hok := fun hwords : l.LogsInWords w scope app s => hwords.logRequest_ok (.arrival hi hr)
  generalize (l.logRequest (request.markedAt (l.clock s).1)
    (({} : Response).markedAt (l.clock (l.clock s).2).1) (l.clock (l.clock s).2).2 :
      Outcome (Event Q ε) σ (Option Built)) = logging at hserved hlogging hcalls hok
  have hquiet : (Event.clockRead (l.clock s).1 :: .clockRead (l.clock (l.clock s).2).1 ::
      logging.events).filter Event.isExchange = [] := by
    simp [Event.isExchange, Event.filter_eq_nil hlogging]
  refine ⟨logging.state, hcalls, ?_⟩
  cases hresult : logging.result with
  | error f =>
      refine ⟨.inr ?_, fun hwords => ?_⟩
      · rw [hserved, hresult, Outcome.after_events, List.filter_append, hquiet]
        rfl
      · obtain ⟨b, hb⟩ := hok hwords
        rw [hresult] at hb
        cases hb
  | ok b =>
      have hexchange : ∀ e ∈ (app.call w logging.state).events, e.isExchange = true :=
        app.notes_call w _
      have hevents : (l.serve w scope app s).events.filter Event.isExchange =
          (app.call w logging.state).events := by
        rw [hserved, hresult, Outcome.after_events, List.filter_append, hquiet,
          List.filter_eq_self.mpr hexchange, List.nil_append]
      refine ⟨.inl hevents, fun _ => ⟨hevents, ?_⟩⟩
      rw [hserved, hresult]
      rfl

/-- A request that is logged at the end is served by watching the application. -/
theorem serve_watched (h : scope.IsRequest) (hi : l.immediate = false) {app : App Q R} {s s₁ : σ}
    {events : List (Event Q ε)} {response : Response} {result : Except Fault Unit}
    (hw : l.watch w app {} (l.clock s).2 = ⟨events, .ok (response, result), s₁⟩) :
    l.ServesAs w scope app s (events.filter Event.isExchange) result := by
  obtain ⟨request, hr, -⟩ := Request.ofScope_ok h l.trustProxy
  have hserved : l.serve w scope app s = _ := serve_finish h.kind hi hr hw
  have hlogging := not_isExchange_logRequest (ε := ε) (Q := Q) l
    (request.markedAt (l.clock s).1) response s₁
  have hevents : (l.serve w scope app s).events.filter Event.isExchange =
      events.filter Event.isExchange := by
    rw [hserved, List.filter_append, Event.filter_eq_nil hlogging, List.append_nil]
    rfl
  refine ⟨.inl hevents, fun hwords => ⟨hevents, ?_⟩⟩
  obtain ⟨b, hb⟩ := hwords.logRequest_ok (.finish hi hr hw)
  rw [hserved, hb]
  rfl

/-- What an application does behind the logger is a path through it. -/
theorem path_serve (h : scope.IsRequest) {app : App Q R} (happ : app.IsTyped) (s : σ) :
    ∃ exchanged result, l.ServesAs w scope app s exchanged result ∧ app.Path exchanged result := by
  cases hi : l.immediate with
  | true =>
      obtain ⟨s', -, hserves⟩ := exists_call (w := w) h hi app s
      exact ⟨_, _, hserves, app.path_call w s'⟩
  | false =>
      obtain ⟨events, response, result, s', hw, hwatched⟩ := l.watch_watched w app {} (l.clock s).2
      exact ⟨_, _, serve_watched h hi hw, hwatched.path happ⟩

/-- An application that begins with a question is answered when it is called, and goes on with this
answer. -/
theorem serve_ask (h : scope.IsRequest) (htyped : ∀ outcome, (next outcome).IsTyped) (s : σ) :
    ∃ (s' : σ) (rest : List (Event Q ε)) (result : Except Fault Unit), l.CallsIn w scope s s' ∧
      l.ServesAs w scope (.ask q next) s
        ((.asked q :: (w.answer q s').events.map .inside) ++ rest) result ∧
      (next (w.answer q s').result).Path rest result := by
  cases hi : l.immediate with
  | true =>
      obtain ⟨s', hcalls, hserves⟩ := exists_call (w := w) h hi (.ask q next) s
      obtain ⟨rest, hcall, hpath⟩ := App.call_ask w q next s'
      exact ⟨s', rest, _, hcalls, hcall ▸ hserves, hpath⟩
  | false =>
      obtain ⟨events, response, result, s', hw, hwatched⟩ := l.watch_watched w
        (next (w.answer q (l.clock s).2).result) {} (w.answer q (l.clock s).2).state
      have hwatch : l.watch w (.ask q next) {} (l.clock s).2 =
          ⟨(.asked q :: (w.answer q (l.clock s).2).events.map .inside) ++ events,
            .ok (response, result), s'⟩ := by
        rw [watch, Act.bind_of_ok (w.answerQuestion_apply q _), hw]
        rfl
      have hserves := serve_watched h hi hwatch
      rw [List.filter_append,
        List.filter_eq_self.mpr (Event.isExchange_asked q (w.answer q (l.clock s).2).events)]
        at hserves
      exact ⟨(l.clock s).2, events.filter Event.isExchange, result, .marked hi, hserves,
        hwatched.path (htyped _)⟩

end Logger

namespace Service

/-! ### Parameters that are read -/

namespace Parameters

/-- An integer between bounds is an integer, and between them. -/
theorem integerWithin_eq_ok_iff {least most : Option Int} {text : String} {n : Int} :
    integerWithin least most text = .ok n ↔
      integer text = .ok n ∧ (∀ k ∈ least, k ≤ n) ∧ ∀ k ∈ most, n ≤ k := by
  have hbounded : ∀ m : Int, bounded least most m = .ok n ↔
      m = n ∧ (∀ k ∈ least, k ≤ n) ∧ ∀ k ∈ most, n ≤ k := by
    intro m
    unfold bounded
    cases least <;> cases most <;> simp <;> grind
  unfold integerWithin
  cases integer text with
  | error i =>
      change Except.error i = Except.ok n ↔ _
      simp
  | ok m =>
      change bounded least most m = .ok n ↔ _
      rw [hbounded, Except.ok.injEq]

/-- A parameter that is given is what was read of its text. -/
theorem given_eq_some {α : Type} {fields : List (String × String)} {name : String}
    {read : String → Except Issue α} {a : α} (h : given fields name read = .ok (some a)) :
    ∃ text, read text = .ok a := by
  unfold given at h
  split at h
  · rename_i text _
    cases hread : read text with
    | error i =>
        rw [hread] at h
        cases h
    | ok b =>
        rw [hread] at h
        obtain rfl := Option.some.inj (Except.ok.inj h)
        exact ⟨text, hread⟩
  · cases h

/-- A limit that is read is not zero, and no skip is negative. -/
theorem read_bounds {query : List Char} {p : Parameters} (h : read query = .ok p) :
    (∀ k ∈ p.limit, 1 ≤ k) ∧ 0 ≤ p.skip := by
  unfold read at h
  dsimp only at h
  split at h
  · rename_i limit skip _ _ hlimit hskip
    obtain rfl := Except.ok.inj h
    constructor
    · rintro k rfl
      obtain ⟨text, htext⟩ := given_eq_some hlimit
      exact (integerWithin_eq_ok_iff.mp htext).2.1 1 rfl
    · cases skip with
      | none => exact Int.le_refl 0
      | some k =>
          obtain ⟨text, htext⟩ := given_eq_some hskip
          exact (integerWithin_eq_ok_iff.mp htext).2.1 0 rfl
  · cases h

end Parameters

/-! ### Pages -/

/-- A step for each element gives as many results. -/
theorem length_of_mapM {α β : Type} {f : α → Except Fault β} {as : List α} {bs : List β}
    (h : as.mapM f = .ok bs) : bs.length = as.length := by
  induction as generalizing bs with
  | nil =>
      cases h
      rfl
  | cons a rest ih =>
      rw [List.mapM_cons] at h
      obtain ⟨b, -, h⟩ := ok_of_bind h
      obtain ⟨bs', hrest, h⟩ := ok_of_bind h
      cases h
      rw [List.length_cons, List.length_cons, ih hrest]

/-- Where everything fits, there are as many results as checks. -/
theorem length_of_together {α : Type} {rs : List (Checked α)} {as : List α}
    (h : together rs = .ok as) : as.length = rs.length := by
  induction rs generalizing as with
  | nil =>
      cases h
      rfl
  | cons r rest ih =>
      unfold together at h
      cases hrest : together rest with
      | error found => cases r <;> simp [hrest, both, Except.map] at h
      | ok others =>
          cases r with
          | error found => simp [hrest, both, Except.map] at h
          | ok a =>
              rw [hrest] at h
              cases h
              rw [List.length_cons, List.length_cons, ih hrest]

/-- A page shows every document and says how many there are, and it says the limit and the skip
that it is given. -/
theorem page_ok {documents : List Value} {limit skip : Int} {v : Value}
    (h : page documents (.int limit) skip = .ok v) :
    ∃ rows, rows.length = documents.length ∧
      v = .mapping [("records", .list rows), ("count", .int rows.length), ("limit", .int limit),
        ("skip", .int skip)] := by
  unfold page at h
  obtain ⟨shown, hshown, h⟩ := ok_of_bind h
  obtain ⟨⟨rows, limit'⟩, hfilled, h⟩ := ok_of_bind h
  obtain ⟨plain, hplain, h⟩ := ok_of_bind h
  generalize hchecked : together (shown.zipIdx.map fun p => row p.2 p.1) = checked at hfilled
  cases checked with
  | error found => cases hfilled
  | ok rows' =>
      cases hfilled
      have hlength : plain.length = documents.length := by
        rw [length_of_mapM hplain, length_of_together hchecked, List.length_map,
          List.length_zipIdx, length_of_mapM hshown]
      obtain rfl := Except.ok.inj h
      refine ⟨plain.map .mapping, by rw [List.length_map, hlength], ?_⟩
      rw [List.length_map, hlength]

/-- What is asked under the path of the records is answered with records. -/
theorem route_logs {scope : Scope} (hmethod : scope.method = some (.text "GET"))
    (hpath : scope.path = some (.text "/logs")) (usualLimit : Value) (others : List Route) :
    route (Route.all usualLimit ++ others) scope = records usualLimit scope := by
  unfold route
  rw [hpath, hmethod]
  rfl

/-- Once a route has started an answer, nothing is said to the client or the store any more. -/
theorem handle_started {service : Service} {l : Logger σ} {w : Surroundings ε Question Reply σ}
    {scope : Scope} {s : σ} {m : Message}
    (h : (Answer.ofEvents (l.serve w scope (route service.routes scope) s).events).start =
      some m) :
    (service.handle l w scope s).events.filter Event.isExchange =
      (l.serve w scope (route service.routes scope) s).events.filter Event.isExchange := by
  cases hresult : (l.serve w scope (route service.routes scope) s).result with
  | ok u => rw [handle_of_ok hresult]
  | error f =>
      cases hwording : f.message with
      | error g => rw [handle_of_wordless hresult hwording]
      | ok wording =>
          rw [handle_of_error hresult hwording, h, List.filter_append]
          exact List.append_nil _

/-- An answer that begins with another status than that of a failure is one that a route has
started. -/
theorem served_start {service : Service} {l : Logger σ} {w : Surroundings ε Question Reply σ}
    {scope : Scope} {s : σ} {m : Message}
    (h : (Answer.ofEvents (service.handle l w scope s).events).start = some m)
    (hm : m.status ≠ some (.int 500)) :
    (Answer.ofEvents (l.serve w scope (route service.routes scope) s).events).start = some m := by
  obtain ⟨last, hevents, -, hstarts⟩ := handle_events service l w scope s
  rw [hevents, Answer.start_append] at h
  cases hstart : (Answer.ofEvents
      (l.serve w scope (route service.routes scope) s).events).start with
  | some m' =>
      rw [hstart] at h
      exact h
  | none =>
      rw [hstart, Option.none_or, Answer.start_ofEvents] at h
      rcases hstarts with hnil | ⟨-, -, m', took, hone, hm'⟩
      · rw [hnil] at h
        cases h
      · rw [hone] at h
        cases took with
        | false => cases h
        | true => exact absurd (Option.some.inj h ▸ hm') hm

/-! ### An answer with records -/

variable {events : List (Event Question ε)} {result : Except Fault Unit}

/-- A response whose start was taken says its status, and then its body in one piece. -/
theorem respond_started {status : Int} {headers : List (Bytes × Bytes)} {body : Bytes}
    (h : (respond status headers body).Path events result) {m : Message}
    (hm : (Answer.ofEvents events).start = some m) :
    m.status = some (.int status) ∧ events.filterMap Event.inside? = [] ∧
      events.filterMap Event.body? = [body] := by
  rcases path_respond h with ⟨f, rfl, -⟩ | ⟨outcome, rfl, -⟩
  · cases hm
  · cases hm
    exact ⟨rfl, rfl, rfl⟩

/-- An answer with status 200 to a query for records shows a page of what was found. -/
theorem listed_page {usualLimit : Value} {p : Parameters} {next : Except Fault Reply → Handler}
    (hnext : listRecords usualLimit p = .ask (.records (p.query usualLimit)) next)
    {outcome : Except Fault Reply} (h : (next outcome).Path events result) {m : Message}
    (hstart : (Answer.ofEvents events).start = some m) (hm : m.status = some (.int 200)) :
    ∃ documents v, outcome = .ok (.records documents) ∧
      page documents (p.query usualLimit).limit p.skip = .ok v ∧
      events.filterMap Event.inside? = [] ∧
      events.filterMap Event.body? = [Text.Utf8.encode (Json.write v)] := by
  obtain rfl : _ = next := (App.ask.inj hnext).2
  cases outcome with
  | error f =>
      dsimp only at h
      split at h
      · split at h
        · cases h with
          | @ask q _ _ insides _ _ hrest =>
              rw [Answer.start_append, Answer.start_ofEvents, Event.starts_asked] at hstart
              have hunavailable := (respond_started hrest hstart).1
              rw [hm] at hunavailable
              cases hunavailable
        · cases h
          cases hstart
      · cases h
        cases hstart
  | ok reply =>
      cases reply with
      | records documents =>
          dsimp only at h
          split at h
          · rename_i v hv
            obtain ⟨-, hinsides, hbodies⟩ := respond_started h hstart
            exact ⟨documents, v, rfl, hv, hinsides, hbodies⟩
          · cases h
            cases hstart
      | condition =>
          cases h
          cases hstart
      | done =>
          cases h
          cases hstart

/-- The surroundings answer a query for records by a search with a sink that is part of them. -/
def SearchesWith (w : Surroundings Store.Event Question Reply τ) (access : Store.Access σ)
    (part : τ → Store.Sink σ) (put : Store.Sink σ → τ → τ) : Prop :=
  ∀ q, w.answer (.records q) = do
    return .records (← (Store.Sink.query access q).onPart part put)

/-- What is asked of the store for a query is one search for it. -/
theorem SearchesWith.answer_apply {w : Surroundings Store.Event Question Reply τ}
    {access : Store.Access σ} {part : τ → Store.Sink σ} {put : Store.Sink σ → τ → τ}
    (hw : SearchesWith w access part put) (q : Store.Query) (s : τ) :
    ∃ (t : Store.Target) (c : σ),
      (w.answer (.records q) s).events = (Store.find access t q c).events ∧
      (w.answer (.records q) s).result = (Store.find access t q c).result.map .records := by
  rw [hw q, Act.bind_pure_apply]
  exact ⟨(part s).target, (part s).client, rfl, rfl⟩

/-- Where an answer with status 200 to a request for records comes from: one search for the query of
its parameters, and the page of what was found. -/
theorem handled_search {service : Service} {usualLimit : Value} {others : List Route}
    (hroutes : service.routes = Route.all usualLimit ++ others)
    {w : Surroundings Store.Event Question Reply τ} {access : Store.Access σ}
    {part : τ → Store.Sink σ} {put : Store.Sink σ → τ → τ} (hw : SearchesWith w access part put)
    {l : Logger τ} {scope : Scope} (h : scope.IsRequest)
    (hmethod : scope.method = some (.text "GET")) (hpath : scope.path = some (.text "/logs"))
    {p : Parameters}
    (hread : Parameters.read (Text.Latin.decode (queryBytes scope)).toList = .ok p) {s : τ}
    {m : Message} (hstart : (Answer.ofEvents (service.handle l w scope s).events).start = some m)
    (hm : m.status = some (.int 200)) :
    let events := (service.handle l w scope s).events
    let q := p.query usualLimit
    ∃ t c documents v, (Store.find access t q c).result = .ok documents ∧
      page documents q.limit p.skip = .ok v ∧
      events.filterMap Event.inside? = (Store.find access t q c).events ∧
      events.filterMap Event.body? = [Text.Utf8.encode (Json.write v)] := by
  intro events q
  have hroute : route service.routes scope = listRecords usualLimit p := by
    rw [hroutes, route_logs hmethod hpath, records, hread]
  obtain ⟨next, hnext⟩ : ∃ next, listRecords usualLimit p = .ask (.records q) next := ⟨_, rfl⟩
  have htyped : ∀ outcome, (next outcome).IsTyped := by
    have hanswers := (answers_listRecords usualLimit p).isTyped
    rw [hnext] at hanswers
    exact hanswers
  have hstarted := served_start hstart (by rw [hm]; simp)
  have hexchange : events.filter Event.isExchange = _ := handle_started hstarted
  rw [hroute, hnext] at hexchange hstarted
  obtain ⟨s', rest, result, -, hserves, hrest⟩ :=
    Logger.serve_ask (l := l) (w := w) (q := .records q) h htyped s
  rw [Answer.start_ofEvents, ← Event.filterMap_filter (fun _ he => Event.start?_eq_none he)]
    at hstarted
  -- an answer was started, so the events are there, whatever became of the logging
  have hserved := hserves.shown.resolve_right fun hnil => by
    rw [hnil] at hstarted
    cases hstarted
  rw [hserved] at hexchange hstarted
  have hrestStart : (Answer.ofEvents rest).start = some m := by
    rw [List.filterMap_append, Event.starts_asked, List.nil_append] at hstarted
    rw [Answer.start_ofEvents]
    exact hstarted
  obtain ⟨documents, v, houtcome, hpage, hinsides, hbodies⟩ := listed_page hnext hrest hrestStart hm
  obtain ⟨t, c, hevents, hresult⟩ := hw.answer_apply q s'
  refine ⟨t, c, documents, v, ?_, hpage, ?_, ?_⟩
  · rw [hresult] at houtcome
    cases hfound : (Store.find access t q c).result with
    | error f =>
        rw [hfound] at houtcome
        cases houtcome
    | ok found =>
        rw [hfound] at houtcome
        cases houtcome
        rfl
  · rw [← Event.filterMap_filter (fun _ he => Event.inside?_eq_none he), hexchange,
      List.filterMap_append, Event.insides_asked, hinsides, List.append_nil, hevents]
  · rw [← Event.filterMap_filter (fun _ he => Event.body?_eq_none he), hexchange,
      List.filterMap_append, Event.bodies_asked, List.nil_append, hbodies]

/-- The limit that is asked for where one is reported. -/
def askedLimit (reported : Int) : Int := if reported = 0 then 1000 else reported

/-- The search asks for the limit that it is given, or for a thousand in the place of zero. -/
theorem orElse_usualLimit (n : Int) :
    (Value.int n).orElse Store.usualLimit = .int (askedLimit n) := by
  unfold Value.orElse askedLimit
  by_cases hn : n = 0
  · rw [if_neg (by simp [Value.truth, hn]), if_pos hn]
    rfl
  · rw [if_pos (by simp [Value.truth, hn]), if_neg hn]

/-- A skip of zero is the one that is taken without a skip. -/
theorem orElse_zero (n : Int) : (Value.int n).orElse (.int 0) = .int n := by
  unfold Value.orElse
  by_cases hn : n = 0
  · rw [hn, ite_self]
  · exact if_pos (by simp [Value.truth, hn])

/-- **The page that is reported and the page that is asked for.**  An answer with status 200 to a
request for records comes from one search. The store is told the skip that the answer reports, and
it is told the limit that the answer reports and asked for as many documents, unless no limit is
given and the usual one is zero: then the answer reports zero, and the store is asked for a
thousand.  A store that honours the number that it is asked for gives no more. -/
theorem page_reports_query {env : Settings.Environment} {settings : Settings} {service : Service}
    {others : List Route} (hset : setUp env settings others = .ok service) {n : Int}
    (hlimit : settings.queryLimit = .int n)
    {w : Surroundings Store.Event Question Reply τ} {access : Store.Access σ}
    {part : τ → Store.Sink σ} {put : Store.Sink σ → τ → τ} (hw : SearchesWith w access part put)
    (l : Logger τ) {scope : Scope} (h : scope.IsRequest)
    (hmethod : scope.method = some (.text "GET")) (hpath : scope.path = some (.text "/logs"))
    {p : Parameters}
    (hread : Parameters.read (Text.Latin.decode (queryBytes scope)).toList = .ok p) (s : τ)
    {m : Message} (hstart : (Answer.ofEvents (service.handle l w scope s).events).start = some m)
    (hm : m.status = some (.int 200)) :
    let events := (service.handle l w scope s).events
    let reported := p.limit.getD n
    let asked := askedLimit reported
    ((events.filterMap Event.inside?).filterMap Store.Event.call?).filter Store.Call.isPaging =
        [.skip (.int p.skip), .limit (.int asked), .fetch (.int asked)] ∧
      (∃ rows : List Value, events.filterMap Event.body? =
          [Text.Utf8.encode (Json.write (.mapping [("records", .list rows),
            ("count", .int rows.length), ("limit", .int reported), ("skip", .int p.skip)]))] ∧
        (access.client.HonoursLimit → (rows.length : Int) ≤ asked)) ∧
      (reported = asked ↔ ¬(p.limit = none ∧ n = 0)) := by
  intro events reported asked
  obtain ⟨-, hroutes⟩ := setUp_fields hset
  obtain ⟨t, c, documents, v, hfound, hpage, hinsides, hbodies⟩ :=
    handled_search hroutes hw h hmethod hpath hread hstart hm
  have hquery : (p.query settings.queryLimit).limit = .int reported := by
    show (p.limit.map Value.int).getD settings.queryLimit = _
    rw [hlimit]
    cases hgiven : p.limit <;> simp [reported, hgiven]
  have hasked : (p.query settings.queryLimit).limit.orElse Store.usualLimit = .int asked := by
    rw [hquery]
    exact orElse_usualLimit reported
  rw [hquery] at hpage
  obtain ⟨rows, hrows, rfl⟩ := page_ok hpage
  refine ⟨?_, ⟨rows, hbodies, fun hclient => ?_⟩, ?_⟩
  · have hskip : (p.query settings.queryLimit).skip.orElse (.int 0) = .int p.skip :=
      orElse_zero p.skip
    rw [hinsides, Store.find_paging hfound, hasked, hskip]
  · rw [hrows]
    exact Store.length_find_le hclient hasked hfound
  · have hbounds := (Parameters.read_bounds hread).1
    show reported = askedLimit reported ↔ _
    cases hgiven : p.limit with
    | none =>
        have hreported : reported = n := by simp [reported, hgiven]
        rw [hreported]
        by_cases hn : n = 0
        · simp [askedLimit, hn]
        · simp [askedLimit, hn]
    | some k =>
        have hk := hbounds k hgiven
        have hreported : reported = k := by simp [reported, hgiven]
        rw [hreported]
        unfold askedLimit
        rw [if_neg (by omega)]
        simp

/-! ### A usual limit of zero -/

/-- A store with two documents that gives as many of them as it is asked for. -/
def twoDocuments : Store.Client Unit := fun c _ =>
  match c with
  | .fetch (.int n) =>
    if 0 ≤ n then (.ok (.found ([.mapping [], .mapping []].take n.toNat)), ())
    else (.error (.reported .value "length must be non-negative"), ())
  | _ => (.ok .done, ())

/-- The store with two documents gives no more than it is asked for. -/
theorem honoursLimit_twoDocuments : twoDocuments.HonoursLimit := by
  have hanswer : ∀ (calls : List Store.Call) (x : Store.Exchange),
      x ∈ (twoDocuments.converse calls ()).1 → x.answer = (twoDocuments x.call ()).1 := by
    intro calls
    induction calls with
    | nil => simp [Store.Client.converse]
    | cons c rest ih =>
        intro x hx
        rcases List.mem_cons.mp hx with rfl | hx
        · rfl
        · exact ih x hx
  intro calls s before behind c reply n hxs hanswers
  have hreply := hanswer calls ⟨c, .ok reply⟩ (by rw [hxs]; simp)
  cases hanswers with
  | atOnce =>
      by_cases hn : 0 ≤ n
      · simp only [twoDocuments, if_pos hn, Except.ok.injEq] at hreply
        rw [hreply]
        simp only [Store.Reply.documents, List.length_take]
        omega
      · simp [twoDocuments, if_neg hn] at hreply
  | @awaited ticket _ hwaiting =>
      have hticket := hanswer calls ⟨.fetch (.int n), .ok (.waiting ticket)⟩
        (by rw [hxs]; exact List.mem_append_left _ hwaiting)
      by_cases hn : 0 ≤ n
      · simp [twoDocuments, if_pos hn] at hticket
      · simp [twoDocuments, if_neg hn] at hticket

/-- Surroundings that take every message and search a store. -/
def searching (client : Store.Client Unit) :
    Surroundings Store.Event Question Reply (Store.Sink Unit) where
  send _ s := (.ok (), s)
  receive s := (.ok {}, s)
  answer
    | .records q => do
      return .records (← (Store.Sink.query ⟨client, .int 5000⟩ q).onPart id fun sink _ => sink)
    | _ => pure .done

/-- A logger that logs nothing. -/
def quiet : Logger (Store.Sink Unit) where
  clock s := (0, s)
  now := ⟨2024, 5, 1, 12, 0, 0, 0, none⟩
  build _ := pure (.value .absent)
  submit _ s := (.ok (), s)

/-- The service whose usual limit is that number. -/
def limitedService (n : Int) : Service :=
  let settings : Settings := { queryLimit := .int n }
  { settings, log := (setupLog settings).toOption.getD {}, debug := false
    routes := Route.all settings.queryLimit }

/-- A sink for a complete target. -/
def completeSink : Store.Sink Unit where
  target := ⟨.text "mongodb://localhost:27017", .text "logs", .text "requests"⟩
  client := ()

/-- With a usual limit of one the answer reports it, and shows one of the two documents. -/
theorem page_reports_query_one :
    let events := ((limitedService 1).handle quiet (searching twoDocuments) (.ofPath "/logs")
      completeSink).events
    setUp Table.empty { queryLimit := .int 1 } = .ok (limitedService 1) ∧
      SearchesWith (searching twoDocuments) ⟨twoDocuments, .int 5000⟩ id (fun sink _ => sink) ∧
      ∃ rows : List Value, events.filterMap Event.body? =
          [Text.Utf8.encode (Json.write (.mapping [("records", .list rows),
            ("count", .int rows.length), ("limit", .int 1), ("skip", .int 0)]))] ∧
        (rows.length : Int) ≤ 1 := by
  intro events
  have hscope : (Scope.ofPath "/logs").IsRequest := Scope.isRequest_ofPath _
  have hset : setUp Table.empty { queryLimit := .int 1 } = .ok (limitedService 1) := rfl
  have hsearches : SearchesWith (searching twoDocuments) ⟨twoDocuments, .int 5000⟩ id
      (fun sink _ => sink) := fun _ => rfl
  have hread : Parameters.read
      (Text.Latin.decode (queryBytes (Scope.ofPath "/logs"))).toList = .ok {} := rfl
  obtain ⟨m, hstart, hm⟩ : ∃ m, (Answer.ofEvents events).start = some m ∧
      m.status = some (.int 200) := ⟨_, rfl, rfl⟩
  obtain ⟨-, ⟨rows, hbodies, hcount⟩, -⟩ :=
    page_reports_query hset rfl hsearches quiet hscope rfl rfl hread completeSink hstart hm
  exact ⟨hset, hsearches, rows, hbodies, hcount honoursLimit_twoDocuments⟩

/-- With a usual limit of zero the answer reports a limit of zero and shows two documents, and the
store was asked for a thousand. -/
theorem zero_limit_is_not_asked :
    let events := ((limitedService 0).handle quiet (searching twoDocuments) (.ofPath "/logs")
      completeSink).events
    setUp Table.empty { queryLimit := .int 0 } = .ok (limitedService 0) ∧
      (∃ m, (Answer.ofEvents events).start = some m ∧ m.status = some (.int 200)) ∧
      ((events.filterMap Event.inside?).filterMap Store.Event.call?).filter Store.Call.isPaging =
        [.skip (.int 0), .limit (.int 1000), .fetch (.int 1000)] ∧
      events.filterMap Event.body? = [Text.Utf8.encode (Json.write (.mapping
        [("records", .list [.mapping [], .mapping []]), ("count", .int 2), ("limit", .int 0),
          ("skip", .int 0)]))] ∧
      twoDocuments.HonoursLimit := by
  intro events
  refine ⟨rfl, ⟨_, rfl, rfl⟩, rfl, ?_, honoursLimit_twoDocuments⟩
  decide +kernel

end Service

end RequestLog
