import RequestLog.Proofs.Build
import RequestLog.Proofs.Logger.Planned
import RequestLog.Proofs.Logger.Sent
import RequestLog.Proofs.Service.Answers
import RequestLog.Service.Basic

/-!
# The status that a service logs

The logger of a service stands between the routes and the answer to a fault that no route has
answered for. With a built-in format it logs the status that its own response shows
(`submits_status`), which is the status of the answer as far as a route has started it
(`served_status`); what is answered after that the document does not see (`handle_events`). Such a
logger fails in words if its sink does (`LogsPlainly.logsInWords`). The main statement is
`service_logs_status`: the document says the status that the client is given exactly if a route
started the answer.
-/

namespace RequestLog

variable {ε β σ : Type}

/-! ### The built-in formats -/

namespace Format

variable {name template : String}

/-- A built-in format has a name and a template, and shows at least method and status. -/
theorem mem_references (h : (name, .value (.text template)) ∈ (builtin : List (String × Spec β))) :
    name ≠ "" ∧ template ≠ "" ∧ ⟨"method", none⟩ ∈ Template.references template ∧
      ⟨"status", none⟩ ∈ Template.references template := by
  simp only [builtin, List.mem_cons, Prod.mk.injEq, Spec.value.injEq, Value.text.injEq,
    List.not_mem_nil, or_false] at h
  rcases h with ⟨rfl, rfl⟩ | ⟨rfl, rfl⟩ | ⟨rfl, rfl⟩ <;> decide +kernel

/-- A built-in format is selected by its name. -/
theorem select_builtin
    (h : (name, .value (.text template)) ∈ (builtin : List (String × Spec β))) :
    (Catalog.builtin : Catalog β).select (some name) = .ok (.value (.text template)) := by
  have hnodup : ((builtin : List (String × Spec β)).map (·.1)).Nodup := by
    show ["default", "short", "tiny"].Nodup
    decide
  have hget : (Catalog.builtin : Catalog β).formats.get? name = some (.value (.text template)) := by
    unfold Catalog.builtin Table.get?
    rw [Table.entries_ofList hnodup]
    exact lookup_of_mem hnodup h
  unfold Catalog.select
  split
  · contradiction
  · rename_i hname
    exact absurd (Option.some.inj hname) (mem_references h).1
  · rename_i wanted _ hname
    obtain rfl := Option.some.inj hname
    rw [Catalog.entry?, hget]
    rfl

/-- A catalog as it starts compiles the template of a built-in format. -/
theorem lookup_builtin
    (h : (name, .value (.text template)) ∈ (builtin : List (String × Spec β))) :
    ∃ lines catalog, (Catalog.lookup (.value (.text name)) : Act LogLine (Catalog β) _)
      Catalog.builtin =
        ⟨lines, .ok (.compiled ⟨0, template, Template.references template⟩), catalog⟩ := by
  have hcompile : Template.compile template = .ok ⟨template, Template.references template⟩ :=
    Template.compile_eq_ok_iff.mpr ⟨(mem_references h).2.1, rfl⟩
  obtain ⟨lines, catalog, hcompiled⟩ : ∃ lines catalog,
      (Catalog.compileText template : Act LogLine (Catalog β) Compiled) Catalog.builtin =
        ⟨lines, .ok ⟨0, template, Template.references template⟩, catalog⟩ := by
    unfold Catalog.compileText
    rw [Act.bind_of_ok (Act.get_apply _)]
    have hnone : (Catalog.builtin : Catalog β).compiled.get? template = none := List.lookup_nil
    rw [hnone]
    dsimp only
    rw [hcompile, Act.ofExcept_ok_bind]
    exact ⟨_, _, rfl⟩
  have hcatalog : (Catalog.lookup (.value (.text name)) : Act LogLine (Catalog β) _)
      Catalog.builtin = (do
        let c ← Catalog.compileText template
        return .compiled c : Act LogLine (Catalog β) (Selected β)) Catalog.builtin := by
    unfold Catalog.lookup
    refine (Act.bind_of_ok (Act.pure_apply (some name) _)).trans ?_
    dsimp only
    rw [Act.bind_of_ok (Act.get_apply _), select_builtin h, Act.ofExcept_ok_bind]
    rfl
  refine ⟨_, _, hcatalog.trans (Act.bind_of_ok hcompiled)⟩

end Format

/-! ### What a document says -/

/-- The value that a document has under a text. -/
def Document.valueAt (d : Document) (key : String) : Option Value :=
  (d.find? fun e => e.1.text? == some key).map (·.2)

/-- The document of named values has them under their names. -/
theorem Document.valueAt_ofFields (fields : Fields) (key : String) :
    (ofFields fields).valueAt key = fields.lookup key := by
  unfold valueAt ofFields
  induction fields with
  | nil => rfl
  | cons e rest ih =>
      rw [List.map_cons, List.find?_cons, List.lookup_cons]
      by_cases h : key = e.1
      · simp [h, Value.text?]
      · have hne : (e.1 == key) = false := beq_eq_false_iff_ne.mpr fun heq => h heq.symm
        simp only [Value.text?, Option.some_beq_some, hne, beq_eq_false_iff_ne.mpr h]
        exact ih

theorem Placeholder.shown_method (sight : Sight) :
    (Placeholder.mk "method" none).shown sight = sight.request.method := rfl

theorem Placeholder.shown_status (sight : Sight) :
    (Placeholder.mk "status" none).shown sight =
      if sight.response.headersSent.truth then sight.response.statusCode else .absent := rfl

namespace Service

/-! ### The logger of a service -/

variable {service : Service} {name template : String}

/-- The plan of the logger of a service with a built-in format. -/
def builtinPlan (service : Service) (template : String) : LoggerPlan β :=
  { target := none, immediate := service.settings.immediate
    queryLimit := service.settings.queryLimit
    selected := .compiled ⟨0, template, Template.references template⟩ }

/-- A service with a built-in format has a logger, which is made by the plan for that format and
leaves out what is asked of the health. -/
theorem readyLogger_ok (hname : service.settings.format = .text name)
    (h : (name, .value (.text template)) ∈ (Format.builtin : List (String × Format.Spec β)))
    (make : LoggerPlan β → Logger σ) :
    ∃ notices kept, service.readyLogger make {} = ⟨notices,
      .ok { make (service.builtinPlan template) with
        skip := some fun request _ s => ((request.urlBegins unloggedPath).map .bool, s) },
      kept⟩ := by
  obtain ⟨lines, catalog, hlookup⟩ := Format.lookup_builtin h
  have hplan : (((loggerOptions service.settings).plan service.settings true) :
      Act Notice (Catalog β) (LoggerPlan β)) Catalog.builtin =
        ⟨lines.map .logged, .ok (service.builtinPlan template), catalog⟩ := by
    have hformat : (loggerOptions service.settings : LoggerOptions β).formatFor service.settings =
        .value (.text name) := by
      simp [LoggerOptions.formatFor, loggerOptions, hname]
    have himmediate : (if (loggerOptions service.settings : LoggerOptions β).immediate.isAbsent
        then service.settings.immediate
        else (loggerOptions service.settings : LoggerOptions β).immediate) =
          service.settings.immediate := ite_self _
    rw [LoggerOptions.plan_apply, hformat, hlookup]
    simp [LoggerOptions.planWith, builtinPlan, Except.map, himmediate]
  have hkept : (((loggerOptions service.settings).plan service.settings true).onPart Kept.catalog
      fun catalog k => { k with catalog := catalog } : Act Notice (Kept β σ) (LoggerPlan β)) {} =
        ⟨lines.map .logged, .ok (service.builtinPlan template), { catalog := catalog }⟩ := by
    rw [Act.onPart_apply]
    dsimp only
    rw [hplan]
  unfold readyLogger
  rw [Act.bind_of_ok (Act.get_apply _)]
  dsimp only
  rw [Act.bind_of_ok hkept]
  exact ⟨_, _, rfl⟩

/-- The logger is one that a service makes to log at the end, by a template and the built-in
tokens. -/
structure LogsBy (l : Logger σ) (template : String) : Prop where
  immediate : l.immediate = false
  trustProxy : l.trustProxy = false
  omitAbsent : l.omitAbsent = false
  skip : l.skip = some fun request _ s => ((request.urlBegins unloggedPath).map .bool, s)
  build : l.build = fun sight => do
    return .record (← Template.build ⟨template, Template.references template⟩
      (Registry.builtin Registry.plain) sight)

variable {l : Logger σ} {request : Request} {response : Response}

/-- A logger by a template and the built-in tokens gives the record that the template comes to. -/
theorem building_of_template {t : Template}
    (hl : l.build = fun sight => do
      return .record (← t.build (Registry.builtin Registry.plain) sight))
    {lines : List LogLine} {r : Record} {s : σ}
    (h : t.build (Registry.builtin Registry.plain) ⟨request, response, l.now⟩ s =
      ⟨lines, .ok r, s⟩) :
    l.building request response s = ⟨lines, .ok (.record r), s⟩ := by
  unfold Logger.building
  rw [hl]
  dsimp only
  rw [Act.bind_of_ok h]
  simp [Outcome.after]

/-- What is not left out is submitted by a built-in format if its status can be written, and its
document says the status if the headers were sent. -/
theorem submits_status (hl : LogsBy l template)
    (h : (name, .value (.text template)) ∈ (Format.builtin : List (String × Format.Spec β)))
    (hsight : Sight.IsPlain ⟨request, response, l.now⟩) (hstatus : response.statusCode.IsWritable)
    (hurl : request.urlBegins unloggedPath = .ok false) (s : σ) :
    ∃ d, l.Submits request response s d ∧
      d.valueAt "status" =
        some (if response.headersSent.truth then response.statusCode else .absent) := by
  obtain ⟨-, hsource, hmethod, hreference⟩ := Format.mem_references h
  have hadmission : l.admission request response s = some s := by
    unfold Logger.admission
    simp [hl.skip, hurl, Except.map, Value.truth]
  have hcompile : Template.compile template = .ok ⟨template, Template.references template⟩ := by
    simp [Template.compile, hsource]
  obtain ⟨lines, r, hbuild, hentries, hliteral⟩ := Template.build_ok hsight hcompile s
  have hbuilding := building_of_template hl.build hbuild
  have hentry : ∀ p ∈ Template.references template,
      (p.key, p.shown ⟨request, response, l.now⟩) ∈ r.fields.entries := by
    intro p hp
    rw [hentries]
    exact List.mem_map.mpr ⟨p, hp, rfl⟩
  have hcarries : (Built.record r).Carries := by
    refine .record (hentry _ hmethod) ?_
    obtain ⟨method, hmethodText⟩ := hsight.request.method
    rw [Placeholder.shown_method, hmethodText]
    intro habsent
    cases habsent
  have hdocument : r.document l.omitAbsent = Document.ofFields r.fields.entries := by
    rw [hl.omitAbsent]
    rfl
  refine ⟨r.document l.omitAbsent,
    ⟨s, _, hadmission, by rw [hbuilding], hcarries, hliteral hstatus, rfl⟩, ?_⟩
  have hshown := Placeholder.shown_status ⟨request, response, l.now⟩
  rw [hdocument, Document.valueAt_ofFields, ← hshown]
  exact lookup_of_mem r.fields.nodup (hentry _ hreference)

/-! ### Requests that are served -/

/-- The status that is to be logged for an answer: that of its start, or none without one. -/
def statusOf (start : Option Message) : Option Value :=
  match start with
  | none => some .absent
  | some m => m.status

/-- A response that is told by at most one start shows the status of the answer, and nothing if
there is none. -/
theorem shown_statusOf {starts : List (Message × Bool)}
    (htold : response.told = starts.foldl Told.andThen ({} : Response).told)
    (hstarts : starts = [] ∨ ∃ m n took, starts = [(m, took)] ∧ m.status = some (.int n) ∧
      (Value.int n).IsWritable) :
    response.statusCode.IsPlain ∧
      some (if response.headersSent.truth then response.statusCode else .absent) =
        statusOf ((starts.find? (·.2)).map (·.1)) := by
  have hstatus : response.statusCode = response.told.status := rfl
  have hsent : response.headersSent.truth = response.told.sent := rfl
  rw [hstatus, hsent, htold]
  rcases hstarts with rfl | ⟨m, n, took, rfl, hm, hwritable⟩
  · exact ⟨Value.isPlain_absent, rfl⟩
  · have hcode : m.status.getD .absent = .int n := by rw [hm]; rfl
    have htold' : [(m, took)].foldl Told.andThen ({} : Response).told =
        ⟨.int n, ⟨m.headers.getD []⟩, took⟩ := by
      rw [← hcode]
      rfl
    rw [htold']
    refine ⟨⟨rfl, hwritable⟩, ?_⟩
    cases took with
    | true => exact hm.symm
    | false => rfl

/-- What has been seen of an application that answers once shows the status of the answer. -/
theorem Answers.shown {app : Handler} (happ : Answers app) {watched : List (Event Question ε)}
    {result : Except Fault Unit} (h : Logger.Watched app {} watched response result) :
    response.statusCode.IsPlain ∧
      some (if response.headersSent.truth then response.statusCode else .absent) =
        statusOf (((watched.filterMap Event.start?).find? (·.2)).map (·.1)) := by
  have hexchange : (watched.filter Event.isExchange).filterMap Event.start? =
      watched.filterMap Event.start? :=
    Event.filterMap_filter (fun _ he => Event.start?_eq_none he) watched
  refine shown_statusOf h.told ?_
  rw [← hexchange]
  rcases happ.starts (h.path happ.isTyped) with hnone | ⟨m, n, took, hone, hm, hwritable, -⟩
  · exact .inl hnone
  · exact .inr ⟨m, n, took, hone, hm, hwritable⟩

/-! ### Loggers that fail in words -/

/-- The logger makes its records by a template and the built-in tokens, and its skip predicate and
its sink fail at most with faults that have a wording. -/
structure LogsPlainly (l : Logger σ) : Prop where
  skip : ∀ p ∈ l.skip, ∀ request response s, FailsInWords (p request response s).1
  build : ∃ source compiled, Template.compile source = .ok compiled ∧
    l.build = fun sight => do
      return .record (← compiled.build (Registry.builtin Registry.plain) sight)
  submit : ∀ documents s, FailsInWords (l.submit documents s).1

/-- What a service leaves out is told from an address, which may be of another kind than a text. -/
theorem failsInWords_urlBegins (request : Request) (start : String) :
    FailsInWords (request.urlBegins start) := by
  unfold Request.urlBegins
  split
  · exact failsInWords_ok _
  · exact failsInWords_error ⟨_, rfl⟩
  · exact failsInWords_error ⟨_, rfl⟩
  · exact failsInWords_error ⟨_, rfl⟩

/-- The logger that a service makes to log by a built-in format is such a logger, if its sink fails
in words. -/
theorem LogsBy.logsPlainly (hl : LogsBy l template)
    (h : (name, .value (.text template)) ∈ (Format.builtin : List (String × Format.Spec β)))
    (hsubmit : ∀ documents s, FailsInWords (l.submit documents s).1) : LogsPlainly l where
  skip := by
    intro p hp request response s
    rw [hl.skip] at hp
    cases hp
    exact (failsInWords_urlBegins request _).map Value.bool
  build :=
    ⟨template, _, Template.compile_eq_ok_iff.mpr ⟨(Format.mem_references h).2.1, rfl⟩, hl.build⟩
  submit := hsubmit

/-- Such a logger logs a plain exchange, or fails in words. -/
theorem LogsPlainly.isWorded (hl : LogsPlainly l)
    (hsight : Sight.IsPlain ⟨request, response, l.now⟩) {s : σ} {f : Fault}
    (hf : l.Fails request response s f) : f.IsWorded := by
  obtain ⟨source, compiled, hcompile, hbuild⟩ := hl.build
  have hbuilding : ∀ s, ∃ lines r, l.building request response s = ⟨lines, .ok (.record r), s⟩ ∧
      FailsInWords r.literal := by
    intro s
    obtain ⟨lines, r, hrecord, hentries, -⟩ := Template.build_ok hsight hcompile s
    refine ⟨lines, r, building_of_template hbuild hrecord, Record.failsInWords_literal ?_⟩
    rw [hentries]
    intro e he
    obtain ⟨p, -, rfl⟩ := List.mem_map.mp he
    exact p.isSimple_shown hsight
  cases hadmission : l.admission request response s with
  | none =>
      obtain ⟨p, s', hp, hfault⟩ := (Logger.fails_unadmitted hadmission f).mp hf
      exact hl.skip p hp request response s f (by rw [hfault])
  | some s₁ =>
      obtain ⟨lines, r, hb, hliteral⟩ := hbuilding s₁
      rw [Logger.fails_admitted hadmission, hb] at hf
      rcases hf with hfailed | ⟨b, hr, hread | ⟨-, hshow | ⟨_, -, hreread | ⟨d, -, hsubmit⟩⟩⟩⟩
      · cases hfailed
      · cases hr
        cases hread
      · cases hr
        exact hliteral f hshow
      · cases hr
        cases hreread
      · exact hl.submit _ _ f hsubmit

/-- **Logging in words.**  Where an application that answers once is asked, whatever goes wrong in
such a logger has a wording. -/
theorem LogsPlainly.logsInWords {scope : Scope} {w : Surroundings ε Question Reply σ}
    {app : Handler} (hl : LogsPlainly l) (h : scope.IsRequest) (happ : Answers app) (s : σ) :
    l.LogsInWords w scope app s := by
  intro request response s₁ f hat hf
  refine hl.isWorded ⟨?_, ?_⟩ hf
  · obtain ⟨arrived, hr, rfl⟩ := hat.exists_request
    obtain ⟨request, hrequest, hplain⟩ := Request.ofScope_ok h l.trustProxy
    obtain rfl : request = arrived := Except.ok.inj (hrequest.symm.trans hr)
    exact hplain.markedAt _
  · cases hat with
    | arrival => rfl
    | @finish _ _ events outcome _ _ hr hw =>
        obtain ⟨_, _, _, _, hw', hwatched⟩ := l.watch_watched w app {} (l.clock s).2
        rw [hw] at hw'
        cases hw'
        exact (happ.shown hwatched).1.isSimple

/-- The request is one that is logged. -/
def IsLogged (scope : Scope) : Prop :=
  ∀ request, Request.ofScope scope false = .ok request → request.urlBegins unloggedPath = .ok false

variable {scope : Scope} {w : Surroundings ε Question Reply σ} {app : Handler}

/-- One document is submitted while a request is served by an application that answers once, and
its status is that of the answer as it is then. -/
theorem served_status (hl : LogsBy l template)
    (hformat : (name, .value (.text template)) ∈ (Format.builtin : List (String × Format.Spec β)))
    (happ : Answers app) (h : scope.IsRequest) (hlogged : IsLogged scope) (s : σ) :
    ∃ d, (l.serve w scope app s).events.filterMap Event.batch? = [[d]] ∧
      d.valueAt "status" = statusOf (Answer.ofEvents (l.serve w scope app s).events).start := by
  obtain ⟨request, response, s₁, watched, logged, d?, f?, hfinish⟩ :=
    Logger.exists_finish h hl.immediate w app s
  obtain ⟨result, hwatched⟩ := hfinish.run
  obtain ⟨hplain, hshown⟩ := happ.shown hwatched
  have hurl : request.urlBegins unloggedPath = .ok false := by
    obtain ⟨arrived, hr, rfl⟩ := hfinish.at_end.exists_request
    exact hlogged arrived (hl.trustProxy ▸ hr)
  obtain ⟨d, hsubmits, hd⟩ := submits_status hl hformat ⟨hfinish.plain, hplain.isSimple⟩
    hplain.isWritable hurl s₁
  obtain rfl : d? = some d := (hfinish.course.submits_iff d).mp hsubmits
  rw [hfinish.events_eq]
  refine ⟨d, ?_, ?_⟩
  · rw [List.filterMap_append, hfinish.course.batches,
      Event.batches_eq_nil hfinish.not_isLogging]
    rfl
  · rw [hd, hshown, Answer.start_ofEvents, List.filterMap_append,
      Event.starts_eq_nil hfinish.course.not_isExchange, List.append_nil]
    rfl

/-- Where a request was served without a fault, nothing is left to do. -/
theorem handle_of_ok {service : Service} {l : Logger σ} {s : σ} {u : Unit}
    (h : (l.serve w scope (route service.routes scope) s).result = .ok u) :
    service.handle l w scope s = l.serve w scope (route service.routes scope) s := by
  unfold handle
  simp only [h]

/-- A fault is reported in its wording, and answered if no answer was started. -/
theorem handle_of_error {service : Service} {l : Logger σ} {s : σ} {f : Fault} {wording : String}
    (h : (l.serve w scope (route service.routes scope) s).result = .error f)
    (hwording : f.message = .ok wording) :
    let served := l.serve w scope (route service.routes scope) s
    (service.handle l w scope s).events = served.events ++ .logged (unhandledLine wording) ::
      if (Answer.ofEvents served.events).start.isNone then
        ((failure service.debug wording).run w served.state).events else [] := by
  intro served
  obtain ⟨result, hrun⟩ := (failure service.debug wording).run_ok w served.state
  unfold handle
  cases hstart : (Answer.ofEvents served.events).start <;>
    simp [served, h, hwording, hstart, Act.bind_apply, Outcome.after, hrun]

/-- A fault that has no wording is neither reported nor answered. -/
theorem handle_of_wordless {service : Service} {l : Logger σ} {s : σ} {f g : Fault}
    (h : (l.serve w scope (route service.routes scope) s).result = .error f)
    (hwordless : f.message = .error g) :
    (service.handle l w scope s).events =
      (l.serve w scope (route service.routes scope) s).events := by
  unfold handle
  simp [h, hwordless, Act.bind_apply]

/-- What is noted after serving: nothing, or the report of a fault, and the answer to it if there
was none. -/
theorem handle_events (service : Service) (l : Logger σ) (w : Surroundings ε Question Reply σ)
    (scope : Scope) (s : σ) :
    let served := l.serve w scope (route service.routes scope) s
    ∃ last, (service.handle l w scope s).events = served.events ++ last ∧
      last.filterMap Event.batch? = [] ∧
      (last.filterMap Event.start? = [] ∨
        (Answer.ofEvents served.events).start = none ∧ (∃ f, served.result = .error f) ∧
          ∃ m took, last.filterMap Event.start? = [(m, took)] ∧ m.status = some (.int 500)) := by
  intro served
  cases hresult : served.result with
  | ok u =>
      refine ⟨[], ?_, rfl, .inl rfl⟩
      rw [handle_of_ok hresult, List.append_nil]
  | error f =>
      cases hwording : f.message with
      | error g =>
          refine ⟨[], ?_, rfl, .inl rfl⟩
          rw [handle_of_wordless hresult hwording, List.append_nil]
      | ok wording =>
          have hevents := handle_of_error hresult hwording
          cases hstart : (Answer.ofEvents served.events).start with
          | some m =>
              refine ⟨[.logged (unhandledLine wording)], ?_, rfl, .inl rfl⟩
              rw [hevents, hstart]
              rfl
          | none =>
              let answered := (failure service.debug wording).run w served.state
              obtain ⟨result, -, hpath⟩ :=
                (failure service.debug wording).path_run w served.state
              obtain ⟨m, took, hone, hm, -⟩ := starts_respond hpath
              have hquiet : answered.events.filterMap Event.batch? = [] := by
                refine Event.batches_eq_nil ?_
                intro e he
                exact Event.not_isLogging_of_isExchange (hpath.isExchange e he)
              refine ⟨.logged (unhandledLine wording) :: answered.events, ?_, ?_,
                .inr ⟨rfl, ⟨f, rfl⟩, m, took, ?_, hm⟩⟩
              · rw [hevents, hstart]
                rfl
              · rw [List.filterMap_cons, hquiet]
                rfl
              · rw [List.filterMap_cons, hone]
                rfl

/-- What becomes of an answer that was started, or not started, while it was logged. -/
theorem handled_status (hl : LogsBy l template)
    (hformat : (name, .value (.text template)) ∈ (Format.builtin : List (String × Format.Spec β)))
    (hroutes : ∀ r ∈ service.routes, r.AnswersOnce)
    (h : scope.IsRequest) (hlogged : IsLogged scope) (s : σ) :
    let served := l.serve w scope (route service.routes scope) s
    let handled := service.handle l w scope s
    ∃ d, handled.events.filterMap Event.batch? = [[d]] ∧
      (∀ m, (Answer.ofEvents served.events).start = some m →
        (Answer.ofEvents handled.events).start = some m ∧ d.valueAt "status" = m.status) ∧
      ((Answer.ofEvents served.events).start = none → d.valueAt "status" = some .absent ∧
        ∀ m, (Answer.ofEvents handled.events).start = some m →
          m.status = some (.int 500) ∧ ∃ f, served.result = .error f) := by
  intro served handled
  obtain ⟨d, hbatches, hstatus⟩ :=
    served_status (w := w) hl hformat (answers_route hroutes scope) h hlogged s
  obtain ⟨last, hevents, hlast, hstarts⟩ := handle_events service l w scope s
  have hstart : (Answer.ofEvents handled.events).start =
      (Answer.ofEvents served.events).start.or (Answer.ofEvents last).start := by
    rw [hevents]
    exact Answer.start_append _ _
  refine ⟨d, ?_, ?_, ?_⟩
  · rw [hevents, List.filterMap_append, hlast, List.append_nil]
    exact hbatches
  · intro m hm
    rw [hstart, hstatus, hm]
    exact ⟨rfl, rfl⟩
  · intro hnone
    rw [hstart, hstatus, hnone]
    refine ⟨rfl, fun m hm => ?_⟩
    rw [Option.none_or, Answer.start_ofEvents] at hm
    rcases hstarts with hnil | ⟨-, hfault, m', took, hone, hm'⟩
    · rw [hnil] at hm
      cases hm
    · rw [hone] at hm
      cases took with
      | false => cases hm
      | true =>
          obtain rfl : m' = m := Option.some.inj hm
          exact ⟨hm', hfault⟩

/-- A service that is set up keeps its settings and has all the routes, its own ones first. -/
theorem setUp_fields {env : Settings.Environment} {settings : Settings} {others : List Route}
    (h : setUp env settings others = .ok service) :
    service.settings = settings ∧ service.routes = Route.all settings.queryLimit ++ others := by
  obtain ⟨log, -, hservice⟩ := ok_of_bind h
  cases hservice
  exact ⟨rfl, rfl⟩

/-- **The status that a service logs.**  A service with a built-in format that logs at the end has a
logger, whatever other routes it has, as long as they answer once. For every request that is logged
one document is submitted. If a route started the answer, the client is given this start, and the
document says its status; else the document has no status, and what the client may be given is the
answer to a fault of the route, with the status 500. So the document says the status that the client
is given exactly if a route started the answer. -/
theorem service_logs_status {env : Settings.Environment} {settings : Settings}
    {others : List Route} (hset : setUp env settings others = .ok service)
    (hothers : ∀ r ∈ others, r.AnswersOnce) (hname : settings.format = .text name)
    (hformat : (name, .value (.text template)) ∈ (Format.builtin : List (String × Format.Spec β)))
    (himmediate : settings.immediate.truth = false) (run : β → Builder σ) (clock : σ → Int × σ)
    (now : Moment) (submit : List Document → Step σ Unit) :
    ∃ notices l kept, service.readyLogger
        (fun plan => plan.logger run (Registry.builtin Registry.plain) clock now submit) {} =
          ⟨notices, .ok l, kept⟩ ∧
      ∀ (w : Surroundings ε Question Reply σ) (scope : Scope) (s : σ), scope.IsRequest →
        IsLogged scope →
        let served := l.serve w scope (route service.routes scope) s
        let handled := service.handle l w scope s
        ∃ d, handled.events.filterMap Event.batch? = [[d]] ∧
          (∀ m, (Answer.ofEvents served.events).start = some m →
            (Answer.ofEvents handled.events).start = some m ∧ d.valueAt "status" = m.status) ∧
          ((Answer.ofEvents served.events).start = none → d.valueAt "status" = some .absent ∧
            ∀ m, (Answer.ofEvents handled.events).start = some m →
              m.status = some (.int 500) ∧ ∃ f, served.result = .error f) ∧
          ∀ m, (Answer.ofEvents handled.events).start = some m →
            (d.valueAt "status" = m.status ↔ (Answer.ofEvents served.events).start.isSome) := by
  obtain ⟨rfl, hroutes⟩ := setUp_fields hset
  obtain ⟨notices, kept, hready⟩ := readyLogger_ok hname hformat
    fun plan => plan.logger run (Registry.builtin Registry.plain) clock now submit
  let l : Logger σ :=
    { (service.builtinPlan template : LoggerPlan β).logger run
        (Registry.builtin Registry.plain) clock now submit with
      skip := some fun request _ s => ((request.urlBegins unloggedPath).map .bool, s) }
  have hl : LogsBy l template := ⟨himmediate, rfl, rfl, rfl, rfl⟩
  refine ⟨notices, l, kept, hready, fun w scope s h hlogged => ?_⟩
  intro served handled
  have hanswers : ∀ r ∈ service.routes, r.AnswersOnce := by
    rw [hroutes, List.forall_mem_append]
    exact ⟨answersOnce_all _, hothers⟩
  obtain ⟨d, hbatches, hstarted, hfailed⟩ :=
    handled_status (w := w) hl hformat hanswers h hlogged s
  refine ⟨d, hbatches, hstarted, hfailed, fun m hm => ?_⟩
  cases hstart : (Answer.ofEvents served.events).start with
  | some m' =>
      obtain ⟨hhandled, hstatus⟩ := hstarted m' hstart
      obtain rfl : m' = m := Option.some.inj (hhandled.symm.trans hm)
      exact iff_of_true hstatus rfl
  | none =>
      obtain ⟨habsent, hfailure⟩ := hfailed hstart
      rw [habsent, (hfailure m hm).1]
      simp

/-! ### A request that fails -/

/-- Surroundings that take every message and fail at every question. -/
def failing : Surroundings Unit Question Reply Nat where
  send _ n := (.ok (), n)
  receive n := (.ok {}, n)
  answer _ := Act.fail (.reported .state "no answer")

/-- The logger of a plan, with a clock that counts its readings and a sink that takes everything. -/
def counting (plan : LoggerPlan Unit) : Logger Nat :=
  plan.logger (fun _ _ _ => pure (.value .absent)) (Registry.builtin Registry.plain)
    (fun n => (n, n + 1)) ⟨2024, 5, 1, 12, 0, 0, 0, none⟩ fun _ n => (.ok (), n)

theorem isLogged_logs : IsLogged (.ofPath "/logs") := by
  intro request hrequest
  cases hrequest
  rfl

/-- A page beside the records, which answers once. -/
def aboutPage : Route :=
  { path := "/docs", methods := ["GET", "HEAD"],
    handler := fun _ => respond 200 [] (ascii "about") }

/-- A request that fails leaves one document, in a service with one more page. -/
theorem service_logs_status_failing :
    let scope := Scope.ofPath "/logs"
    ∃ service, setUp Table.empty {} [aboutPage] = .ok service ∧ aboutPage.AnswersOnce ∧
      scope.IsRequest ∧ IsLogged scope ∧
      ∃ l d, (service.handle l failing scope 0).events.filterMap Event.batch? = [[d]] := by
  intro scope
  have hscope : scope.IsRequest := Scope.isRequest_ofPath _
  have hpage : aboutPage.AnswersOnce := fun _ => .respond ⟨_, rfl⟩
  have hothers : ∀ r ∈ [aboutPage], r.AnswersOnce := List.forall_mem_singleton.mpr hpage
  obtain ⟨service, hset⟩ : ∃ service, setUp Table.empty {} [aboutPage] = .ok service := ⟨_, rfl⟩
  obtain ⟨-, l, -, -, hlogs⟩ := service_logs_status (β := Unit) (ε := Unit) hset hothers rfl
    (List.mem_cons_self ..) rfl (fun _ _ _ => pure (.value .absent)) (fun n : Nat => (n, n + 1))
    ⟨2024, 5, 1, 12, 0, 0, 0, none⟩ fun _ n => (.ok (), n)
  obtain ⟨d, hbatches, -⟩ := hlogs failing scope 0 hscope isLogged_logs
  exact ⟨service, hset, hpage, hscope, isLogged_logs, l, d, hbatches⟩

/-- The service with the tiny format. -/
def tinyService : Service :=
  let settings : Settings := { format := .text "tiny" }
  { settings, log := (setupLog settings).toOption.getD {}, debug := false
    routes := Route.all settings.queryLimit }

/-- The logger of the service with the tiny format. -/
def tinyLogger : Logger Nat :=
  { counting (tinyService.builtinPlan Format.tiny) with
    skip := some fun request _ s => ((request.urlBegins unloggedPath).map .bool, s) }

/-- What the client is given then has the status 500, but the document has none. -/
theorem fault_is_logged_without_status :
    let handled := tinyService.handle tinyLogger failing (.ofPath "/logs") 0
    setUp Table.empty { format := .text "tiny" } = .ok tinyService ∧
      ((tinyService.readyLogger counting {}).result = .ok tinyLogger) ∧
      ∃ d m, handled.events.filterMap Event.batch? = [[d]] ∧
        (Answer.ofEvents handled.events).start = some m ∧ m.status = some (.int 500) ∧
        d.valueAt "status" = some .absent := by
  intro handled
  have htiny : ("tiny", .value (.text Format.tiny)) ∈
      (Format.builtin : List (String × Format.Spec Unit)) := by
    simp [Format.builtin]
  have hname : tinyService.settings.format = .text "tiny" := rfl
  obtain ⟨notices, kept, hready⟩ := readyLogger_ok hname htiny counting
  have hl : LogsBy tinyLogger Format.tiny := ⟨rfl, rfl, rfl, rfl, rfl⟩
  have hroutes : ∀ r ∈ tinyService.routes, r.AnswersOnce := answersOnce_all _
  have hserved : (Answer.ofEvents (tinyLogger.serve failing (.ofPath "/logs")
      (route tinyService.routes (.ofPath "/logs")) 0).events).start.isNone = true := by
    decide +kernel
  have hhandled : (Answer.ofEvents handled.events).start.isSome = true := by
    decide +kernel
  obtain ⟨m, hm⟩ := Option.isSome_iff_exists.mp hhandled
  obtain ⟨d, hbatches, -, hfailed⟩ :=
    handled_status (w := failing) hl htiny hroutes (Scope.isRequest_ofPath _) isLogged_logs 0
  obtain ⟨habsent, hstatus⟩ := hfailed (Option.isNone_iff_eq_none.mp hserved)
  exact ⟨rfl, congrArg Outcome.result hready, d, m, hbatches, hm, (hstatus m hm).1, habsent⟩

end Service

end RequestLog
