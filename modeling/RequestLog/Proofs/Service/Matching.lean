import RequestLog.Proofs.Logger.Planned
import RequestLog.Proofs.Service.Status

/-!
# What is logged is found again

A query for records names a method, a status and a url, and the store keeps documents that a logger
wrote. With a built-in format the document of an exchange has the method and the url as the scope
presents them and the status that the response shows (`valueAt_submitted`). So the filter of a query
matches the document exactly if what it names is what was logged (`matches_submitted_iff`). The main
statement is `finds_logged`.
-/

namespace RequestLog

variable {ε Q R β σ : Type}

/-! ### What a scope is logged as -/

namespace Scope

/-- The method that is logged. -/
def loggedMethod (scope : Scope) : String := (scope.method.bind Value.text?).getD "GET"

/-- The path that is logged: the bytes as they came, if there are any. -/
def loggedPath (scope : Scope) : String :=
  match (scope.rawPath.bind Value.bytes?).getD [] with
  | [] => (scope.path.bind Value.text?).getD ""
  | raw => Text.Latin.decode raw

/-- The url that is logged: the path, and the query behind a question mark if there is one. -/
def loggedUrl (scope : Scope) : String :=
  match (scope.query.bind Value.bytes?).getD [] with
  | [] => scope.loggedPath
  | query => scope.loggedPath ++ ("?" ++ Text.Latin.decode query)

/-- Without a url there is no path either, so that a url is never replaced by the path. -/
theorem loggedUrl_orElse (scope : Scope) :
    (Value.text scope.loggedUrl).orElse (.text scope.loggedPath) = .text scope.loggedUrl := by
  unfold loggedUrl
  split
  · exact ite_self _
  · rename_i query _
    have hne : scope.loggedPath ++ ("?" ++ Text.Latin.decode query) ≠ "" := by
      intro hempty
      have hlength := congrArg String.length hempty
      simp only [String.length_append] at hlength
      have hmark : "?".length = 1 := rfl
      have hnone : "".length = 0 := rfl
      omega
    exact if_pos (by simp [Value.truth])

end Scope

namespace Request

variable {scope : Scope}

theorem pathOf_eq (h : scope.IsRequest) : pathOf scope = .ok (.text scope.loggedPath) := by
  have hplain : (scope.rawPath.filter Value.truth).isNone →
      pathOf scope = .ok (.text ((scope.path.bind Value.text?).getD "")) := by
    intro hnone
    unfold pathOf
    rw [Option.isNone_iff_eq_none.mp hnone]
    cases hpath : scope.path with
    | none => rfl
    | some v =>
        obtain ⟨s, rfl⟩ := h.path v hpath
        rfl
  unfold Scope.loggedPath
  cases hraw : scope.rawPath with
  | none => exact hplain (by rw [hraw]; rfl)
  | some v =>
      rcases h.rawPath v hraw with rfl | ⟨b, rfl⟩
      · exact hplain (by rw [hraw]; rfl)
      · cases b with
        | nil => exact hplain (by rw [hraw]; rfl)
        | cons x rest =>
            unfold pathOf
            rw [hraw]
            rfl

/-- The logged addresses of a request: its path, and its url. -/
theorem addressesOf_eq (h : scope.IsRequest) :
    addressesOf scope = .ok (.text scope.loggedPath, .text scope.loggedUrl) := by
  unfold addressesOf Scope.loggedUrl
  rw [pathOf_eq h]
  cases hquery : scope.query with
  | none => rfl
  | some v =>
      rcases h.query v hquery with rfl | ⟨b, rfl⟩
      · rfl
      · cases b with
        | nil => rfl
        | cons x rest => rfl

/-- What is read of a request are the method, the path and the url that are logged. -/
theorem ofScope_logged (h : scope.IsRequest) {trustProxy : Bool} {request : Request}
    (hr : ofScope scope trustProxy = .ok request) :
    request.method = .text scope.loggedMethod ∧ request.url = .text scope.loggedPath ∧
      request.fullUrl = .text scope.loggedUrl := by
  have hmethod : scope.method.getD (.text "GET") = .text scope.loggedMethod := by
    unfold Scope.loggedMethod
    cases hmethod : scope.method with
    | none => rfl
    | some v =>
        obtain ⟨s, rfl⟩ := h.method v hmethod
        rfl
  obtain ⟨entries, hentries⟩ := Option.isSome_iff_exists.mp h.headers
  obtain ⟨forwarded, hread⟩ := ofScope_eq hentries (addressesOf_eq h) trustProxy
  cases hread.symm.trans hr
  exact ⟨hmethod, rfl, rfl⟩

end Request

/-- The status that a response shows which is told by these starts. -/
def loggedStatus (starts : List (Message × Bool)) : Value :=
  let told := starts.foldl Told.andThen ({} : Response).told
  if told.sent then told.status else .absent

/-- What holds of an absent status and of the status of each start holds of the status that is
told. -/
theorem Told.status_of_starts {P : Value → Prop} {starts : List (Message × Bool)} {t : Told}
    (habsent : P .absent) (ht : P t.status) (h : ∀ start ∈ starts, ∀ v ∈ start.1.status, P v) :
    P (starts.foldl Told.andThen t).status := by
  induction starts generalizing t with
  | nil => exact ht
  | cons start rest ih =>
      rw [List.forall_mem_cons] at h
      refine ih ?_ h.2
      show P (start.1.status.getD .absent)
      cases hstatus : start.1.status with
      | none => exact habsent
      | some v => exact h.1 v hstatus

/-! ### Documents -/

namespace Document

/-- A filter matches a document if the document has an equal value under each of its names. -/
def Matches (filter : Fields) (d : Document) : Prop :=
  ∀ e ∈ filter, ∃ v, d.valueAt e.1 = some v ∧ e.2.same v = true

/-- The document of a record has the values of the record under their names, except for what is
left out. -/
theorem valueAt_document_iff {r : Record} {omitAbsent : Bool} {key : String} {v : Value} :
    (r.document omitAbsent).valueAt key = some v ↔
      (key, v) ∈ r.fields.entries ∧ (omitAbsent = true → v ≠ .absent) := by
  have hlookup : ∀ entries : Fields, (entries.map (·.1)).Nodup →
      ((ofFields entries).valueAt key = some v ↔ (key, v) ∈ entries) := by
    intro entries hnodup
    rw [valueAt_ofFields]
    exact ⟨mem_of_lookup, lookup_of_mem hnodup⟩
  cases omitAbsent with
  | false =>
      rw [Record.document, withoutAbsent, if_neg Bool.false_ne_true, hlookup _ r.fields.nodup]
      exact ⟨fun h => ⟨h, nofun⟩, fun h => h.1⟩
  | true =>
      have hdocument : r.document true =
          ofFields (r.fields.entries.filter fun e => !e.2.isAbsent) := by
        rw [Record.document, withoutAbsent, if_pos rfl, ofFields, List.filter_map]
        rfl
      rw [hdocument, hlookup _ (r.fields.nodup.sublist (List.filter_sublist.map _)),
        List.mem_filter, Bool.not_eq_true', Value.isAbsent_eq_false_iff]
      exact and_congr_right fun _ => ⟨fun h _ => h, fun h => h rfl⟩

end Document

namespace Value

theorem same_text_iff {s : String} {v : Value} : (text s).same v = true ↔ v = .text s := by
  cases v with
  | text t =>
      simp only [same, sameAtom, numeric?, bytes?, beq_iff_eq, text.injEq]
      exact eq_comm
  | _ => simp [same, sameAtom, numeric?, bytes?]

theorem same_int_iff {n k : Int} : (int n).same (.int k) = true ↔ n = k := by
  simp [same, sameAtom, numeric?, Numeric.same]

end Value

namespace Service

variable {p : Parameters} {d : Document}

/-- An entry is in a filter if its parameter is given. -/
theorem forall_mem_given {α : Type} {given : Option α} {entry : α → String × Value}
    {holds : String × Value → Prop} :
    (∀ e ∈ (given.map entry).toList, holds e) ↔ ∀ a, given = some a → holds (entry a) := by
  cases given <;> simp

/-- An empty text is as good as none. -/
theorem nonEmpty_eq_some_iff {given : Option String} {s : String} :
    Parameters.nonEmpty given = some s ↔ given = some s ∧ s ≠ "" := by
  unfold Parameters.nonEmpty
  rw [Option.filter_eq_some_iff, decide_eq_true_iff]

/-- The filter of a query matches a document that has what the query names. -/
theorem matches_filter_iff :
    d.Matches p.filter ↔
      (∀ method, p.method = some method → method ≠ "" →
        d.valueAt "method" = some (.text (Text.upper method))) ∧
      (∀ n, p.status = some n → ∃ v, d.valueAt "status" = some v ∧ (Value.int n).same v = true) ∧
      (∀ url, p.url = some url → url ≠ "" → d.valueAt "url" = some (.text url)) := by
  have htext : ∀ key s, (∃ v, d.valueAt key = some v ∧ (Value.text s).same v = true) ↔
      d.valueAt key = some (.text s) := by
    intro key s
    simp [Value.same_text_iff]
  unfold Document.Matches Parameters.filter
  rw [List.forall_mem_append, List.forall_mem_append, forall_mem_given, forall_mem_given,
    forall_mem_given]
  simp only [htext, nonEmpty_eq_some_iff, and_imp, and_assoc]

end Service

/-! ### What is submitted -/

/-- The logger logs at the end, by a compiled built-in format and the built-in tokens. -/
structure Logger.LogsBuiltin (l : Logger σ) : Prop where
  immediate : l.immediate = false
  build : ∃ name template compiled,
    (name, .value (.text template)) ∈ (Format.builtin : List (String × Format.Spec Unit)) ∧
      Template.compile template = .ok compiled ∧
      l.build = fun sight => do
        return .record (← compiled.build (Registry.builtin Registry.plain) sight)

/-- Every built-in format shows method, status and url. -/
theorem Format.url_mem_references {name template : String}
    (h : (name, .value (.text template)) ∈ (builtin : List (String × Spec β))) :
    ⟨"url", none⟩ ∈ Template.references template := by
  simp only [builtin, List.mem_cons, Prod.mk.injEq, Spec.value.injEq, Value.text.injEq,
    List.not_mem_nil, or_false] at h
  rcases h with ⟨rfl, rfl⟩ | ⟨rfl, rfl⟩ | ⟨rfl, rfl⟩ <;> decide +kernel

theorem Placeholder.shown_url (sight : Sight) :
    (Placeholder.mk "url" none).shown sight =
      sight.request.fullUrl.orElse sight.request.url := rfl

namespace Logger

/-- A logger that is planned by the name of a built-in format and not to log at once is of this
kind, whatever its other options. -/
theorem logsBuiltin_of_plan {o : LoggerOptions β} {settings : Settings} {hasSink : Bool}
    {name template : String} {plan : LoggerPlan β}
    (hname : o.formatFor settings = .value (.text name))
    (h : (name, .value (.text template)) ∈ (Format.builtin : List (String × Format.Spec β)))
    (hplan : (o.plan settings hasSink Catalog.builtin).result = .ok plan)
    (himmediate : plan.immediate.truth = false) (run : β → Builder σ) (clock : σ → Int × σ)
    (now : Moment) (submit : List Document → Step σ Unit) (trustProxy omitAbsent : Bool)
    (skip : Option (Request → Response → Step σ Value)) :
    LogsBuiltin
      { plan.logger run (Registry.builtin Registry.plain) clock now submit with
        trustProxy, omitAbsent, skip } := by
  obtain ⟨lines, catalog, hlookup⟩ := Format.lookup_builtin h
  rw [LoggerOptions.plan_apply, hname, hlookup] at hplan
  obtain rfl := Except.ok.inj hplan
  have htemplate : (name, .value (.text template)) ∈
      (Format.builtin : List (String × Format.Spec Unit)) := by
    simpa [Format.builtin] using h
  refine ⟨himmediate, name, template, _, htemplate, ?_, rfl⟩
  exact Template.compile_eq_ok_iff.mpr ⟨(Format.mem_references h).2.1, rfl⟩

variable {l : Logger σ} {request : Request} {response : Response} {scope : Scope}

/-- A logger by a built-in format makes a record of a plain exchange, with the method, the status
and the url as their placeholders show them. It can be written if the status can. -/
theorem LogsBuiltin.building_ok (hl : l.LogsBuiltin)
    (hsight : Sight.IsPlain ⟨request, response, l.now⟩) (s : σ) :
    ∃ lines r, l.building request response s = ⟨lines, .ok (.record r), s⟩ ∧
      (∀ name ∈ ["method", "status", "url"],
        (name, (Placeholder.mk name none).shown ⟨request, response, l.now⟩) ∈
          r.fields.entries) ∧
      (response.statusCode.IsWritable → ∃ literal, r.literal = .ok literal) := by
  obtain ⟨name, template, compiled, hformat, hcompile, hbuild⟩ := hl.build
  obtain ⟨-, -, hmethod, hstatus⟩ := Format.mem_references hformat
  have hurl := Format.url_mem_references hformat
  obtain ⟨lines, r, hrecord, hentries, hliteral⟩ := Template.build_ok hsight hcompile s
  obtain ⟨-, rfl⟩ := Template.compile_eq_ok_iff.mp hcompile
  refine ⟨lines, r, Service.building_of_template hbuild hrecord, ?_, hliteral⟩
  have hentry : ∀ name, (⟨name, none⟩ : Placeholder) ∈ Template.references template →
      (name, (Placeholder.mk name none).shown ⟨request, response, l.now⟩) ∈
        r.fields.entries := by
    intro name hp
    rw [hentries]
    exact List.mem_map.mpr ⟨_, hp, rfl⟩
  simp only [List.forall_mem_cons, List.not_mem_nil, false_imp_iff, implies_true, and_true]
  exact ⟨hentry _ hmethod, hentry _ hstatus, hentry _ hurl⟩

/-- A document that is submitted for a plain exchange has the method, the status and the url as
they are shown. A value that is absent may be left out. -/
theorem LogsBuiltin.valueAt_submitted (hl : l.LogsBuiltin)
    (hsight : Sight.IsPlain ⟨request, response, l.now⟩) {s : σ} {d : Document}
    (h : l.Submits request response s d) {name : String}
    (hname : name ∈ ["method", "status", "url"]) {v : Value} :
    d.valueAt name = some v ↔
      (Placeholder.mk name none).shown ⟨request, response, l.now⟩ = v ∧
        (l.omitAbsent = true → v ≠ .absent) := by
  obtain ⟨s₁, b, -, hb, -, -, hd⟩ := h
  obtain ⟨lines, r, hbuilding, hentries, -⟩ := hl.building_ok hsight s₁
  rw [hbuilding] at hb
  cases hb
  cases hd
  rw [Document.valueAt_document_iff]
  refine and_congr_left fun _ => ⟨fun hentry => ?_, fun hshown => hshown ▸ hentries name hname⟩
  have hfirst := lookup_of_mem r.fields.nodup (hentries name hname)
  rw [lookup_of_mem r.fields.nodup hentry] at hfirst
  exact (Option.some.inj hfirst).symm

/-- A plain exchange that no predicate leaves out is submitted if its status can be written. -/
theorem LogsBuiltin.exists_submits (hl : l.LogsBuiltin)
    (hsight : Sight.IsPlain ⟨request, response, l.now⟩) (hstatus : response.statusCode.IsWritable)
    {s s₁ : σ} (h : l.admission request response s = some s₁) :
    ∃ d, l.Submits request response s d := by
  obtain ⟨lines, r, hbuilding, hentries, hliteral⟩ := hl.building_ok hsight s₁
  obtain ⟨method, hmethod⟩ := hsight.request.method
  have hcarries : (Built.record r).Carries := by
    refine .record (hentries "method" (List.mem_cons_self ..)) ?_
    rw [Placeholder.shown_method, hmethod]
    exact Value.noConfusion
  exact ⟨_, s₁, _, h, by rw [hbuilding], hcarries, hliteral hstatus, rfl⟩

end Logger

namespace Service

variable {l : Logger σ} {scope : Scope} {w : Surroundings ε Q R σ} {app : App Q R} {s : σ}

/-- The starts that are tried while a request is served are those of the watched application. -/
theorem starts_serve (h : scope.IsRequest) (hi : l.immediate = false) :
    (l.serve w scope app s).events.filterMap Event.start? =
      (l.watch w app {} (l.clock s).2).events.filterMap Event.start? := by
  obtain ⟨request, hr, -⟩ := Request.ofScope_ok h l.trustProxy
  obtain ⟨events, response, result, s₁, hw, -⟩ := l.watch_watched w app {} (l.clock s).2
  have hlogging := Logger.not_isExchange_logRequest (ε := ε) (Q := Q) l
    (request.markedAt (l.clock s).1) response s₁
  rw [Logger.serve_finish h.kind hi hr hw, hw, List.filterMap_append, Event.starts_eq_nil hlogging,
    List.append_nil]
  rfl

/-- What a request that is logged at the end shows: the method and the url of its scope, and the
status by the starts that were tried. -/
theorem shown_of_finish (h : scope.IsRequest) {request : Request} {response : Response} {s₁ : σ}
    {watched logged : List (Event Q ε)} {d? : Option Document} {f? : Option Fault}
    (hfinish : l.Finish w scope app s request response s₁ watched logged d? f?) :
    let sight : Sight := ⟨request, response, l.now⟩
    (Placeholder.mk "method" none).shown sight = .text scope.loggedMethod ∧
      (Placeholder.mk "url" none).shown sight = .text scope.loggedUrl ∧
      (Placeholder.mk "status" none).shown sight =
        loggedStatus ((l.serve w scope app s).events.filterMap Event.start?) := by
  intro sight
  obtain ⟨arrived, hr, rfl⟩ := hfinish.at_end.exists_request
  obtain ⟨hmethod, hurl, hfullUrl⟩ := Request.ofScope_logged h hr
  obtain ⟨result, hwatched⟩ := hfinish.run
  refine ⟨?_, ?_, ?_⟩
  · rw [Placeholder.shown_method]
    exact hmethod
  · rw [Placeholder.shown_url]
    show arrived.fullUrl.orElse arrived.url = _
    rw [hurl, hfullUrl]
    exact scope.loggedUrl_orElse
  · rw [Placeholder.shown_status, hfinish.events_eq, List.filterMap_append,
      Event.starts_eq_nil hfinish.course.not_isExchange, List.append_nil]
    have htold := hwatched.told
    have hstarts : (Event.clockRead (l.clock s).1 :: watched).filterMap Event.start? =
        watched.filterMap Event.start? := rfl
    rw [hstarts]
    unfold loggedStatus
    rw [← htold]
    rfl

/-- The document says the method and the url of the scope, and the status told by the starts, which
may be left out if it is absent. -/
structure Says (d : Document) (scope : Scope) (starts : List (Message × Bool)) (omitAbsent : Bool) :
    Prop where
  method : d.valueAt "method" = some (.text scope.loggedMethod)
  url : d.valueAt "url" = some (.text scope.loggedUrl)
  status : ∀ v, d.valueAt "status" = some v ↔
    loggedStatus starts = v ∧ (omitAbsent = true → v ≠ .absent)

/-- What is submitted at the end says what was logged. -/
theorem says_submitted (hl : l.LogsBuiltin) (h : scope.IsRequest) {request : Request}
    {response : Response} {s₁ : σ} {watched logged : List (Event Q ε)} {d? : Option Document}
    {f? : Option Fault}
    (hfinish : l.Finish w scope app s request response s₁ watched logged d? f?)
    (hsight : Sight.IsPlain ⟨request, response, l.now⟩) {d : Document} (hd : d? = some d) :
    Says d scope ((l.serve w scope app s).events.filterMap Event.start?) l.omitAbsent := by
  have hsubmits : l.Submits request response s₁ d := (hfinish.course.submits_iff d).mpr hd
  obtain ⟨hmethod, hurl, hstatus⟩ := shown_of_finish h hfinish
  constructor
  case method =>
    rw [hl.valueAt_submitted hsight hsubmits (by decide)]
    exact ⟨hmethod, fun _ => Value.noConfusion⟩
  case url =>
    rw [hl.valueAt_submitted hsight hsubmits (by decide)]
    exact ⟨hurl, fun _ => Value.noConfusion⟩
  case status =>
    intro v
    rw [hl.valueAt_submitted hsight hsubmits (by decide), hstatus]

/-- A document that says what was logged is matched by a filter exactly if that is what the filter
names. -/
theorem Says.matches_iff {d : Document} {starts : List (Message × Bool)} {omitAbsent : Bool}
    (hd : Says d scope starts omitAbsent) {p : Parameters} :
    d.Matches p.filter ↔
      (∀ method, p.method = some method → method ≠ "" →
        Text.upper method = scope.loggedMethod) ∧
      (∀ n, p.status = some n → (Value.int n).same (loggedStatus starts) = true) ∧
      (∀ url, p.url = some url → url ≠ "" → url = scope.loggedUrl) := by
  have hstatus : ∀ n : Int, (∃ v, d.valueAt "status" = some v ∧ (Value.int n).same v = true) ↔
      (Value.int n).same (loggedStatus starts) = true := by
    intro n
    constructor
    · rintro ⟨v, hv, hsame⟩
      rw [((hd.status v).mp hv).1]
      exact hsame
    · intro hsame
      refine ⟨loggedStatus starts, (hd.status _).mpr ⟨rfl, fun _ habsent => ?_⟩, hsame⟩
      rw [habsent] at hsame
      cases hsame
  rw [matches_filter_iff, hd.method, hd.url]
  simp only [hstatus, Option.some.injEq, Value.text.injEq, eq_comm (a := scope.loggedMethod),
    eq_comm (a := scope.loggedUrl)]

/-- **What is logged is found again.**  A request that a built-in format logs at the end, with the
one start that its application tries taken by the server and a number as its status, leaves a
document, if the number can be written, that the filter of every query matches that names, as far as
it names them, the method in any spelling that has the logged one in capitals, this status and the
logged url.  A filter that names all three matches no document of a request that was logged with
another method, status or url.  What is left out of documents makes no difference. -/
theorem finds_logged (hl : l.LogsBuiltin) (h : scope.IsRequest) (w : Surroundings ε Q R σ)
    (app : App Q R) (s : σ)
    (hstatus : ∀ start ∈ (l.serve w scope app s).events.filterMap Event.start?,
      ∀ v ∈ start.1.status, v.isSimple = true) :
    let events := (l.serve w scope app s).events
    let starts := events.filterMap Event.start?
    (l.skip = none → (∀ start ∈ starts, ∀ v ∈ start.1.status, v.IsWritable) →
      ∃ d, events.filterMap Event.batch? = [[d]]) ∧
    ∀ batch ∈ events.filterMap Event.batch?, ∃ d, batch = [d] ∧
      (∀ m n, starts = [(m, true)] → m.status = some (.int n) → ∀ p : Parameters,
        (∀ method ∈ p.method, Text.upper method = scope.loggedMethod) → (∀ k ∈ p.status, k = n) →
          (∀ url ∈ p.url, url = scope.loggedUrl) → d.Matches p.filter) ∧
      ∀ (p : Parameters) method k url, p.method = some method → p.status = some k →
        p.url = some url → method ≠ "" → url ≠ "" →
          (d.Matches p.filter ↔ Text.upper method = scope.loggedMethod ∧
            (Value.int k).same (loggedStatus starts) = true ∧ url = scope.loggedUrl) := by
  intro events starts
  obtain ⟨request, response, s₁, watched, logged, d?, f?, hfinish⟩ :=
    Logger.exists_finish h hl.immediate w app s
  have hbatches : events.filterMap Event.batch? = d?.toList.map fun d => [d] := by
    show (l.serve w scope app s).events.filterMap Event.batch? = _
    rw [hfinish.events_eq, List.filterMap_append, hfinish.course.batches,
      Event.batches_eq_nil hfinish.not_isLogging, List.nil_append]
  have htold : ∀ P : Value → Prop, P .absent → (∀ start ∈ starts, ∀ v ∈ start.1.status, P v) →
      P response.statusCode := by
    intro P habsent hstarts
    obtain ⟨result, hwatched⟩ := hfinish.run
    show P response.told.status
    rw [hwatched.told]
    refine Told.status_of_starts habsent habsent fun start hstart => hstarts start ?_
    show start ∈ (l.serve w scope app s).events.filterMap Event.start?
    rw [hfinish.events_eq, List.filterMap_append]
    exact List.mem_append_left _ hstart
  have hsight : Sight.IsPlain ⟨request, response, l.now⟩ :=
    ⟨hfinish.plain, htold (fun v => v.isSimple = true) rfl hstatus⟩
  refine ⟨fun hskip hwritable => ?_, fun batch hbatch => ?_⟩
  · have hadmission : l.admission request response s₁ = some s₁ := by
      unfold Logger.admission
      rw [hskip]
    obtain ⟨d, hsubmits⟩ := hl.exists_submits hsight
      (htold Value.IsWritable Value.isPlain_absent.isWritable hwritable) hadmission
    obtain rfl : d? = some d := (hfinish.course.submits_iff d).mp hsubmits
    exact ⟨d, hbatches⟩
  · rw [hbatches] at hbatch
    obtain ⟨d, hd, rfl⟩ := List.mem_map.mp hbatch
    have hdocument := says_submitted hl h hfinish hsight (Option.mem_toList.mp hd)
    refine ⟨d, rfl, ?_, ?_⟩
    · intro m n hstarts hm p hmethod hk hurl
      have hone : loggedStatus starts = .int n := by
        rw [hstarts]
        show m.status.getD .absent = .int n
        rw [hm]
        rfl
      rw [hdocument.matches_iff]
      refine ⟨fun method hp _ => hmethod method hp, fun k hp => ?_, fun url hp _ => hurl url hp⟩
      rw [show loggedStatus _ = _ from hone]
      exact Value.same_int_iff.mpr (hk k hp)
    · intro p method k url hmethod hk hurl hmethod' hurl'
      rw [hdocument.matches_iff, hmethod, hk, hurl]
      simp [hmethod', hurl', starts, events]

/-- A request for a page of records, logged by the tiny format, is found by its method in small
letters, its status and its url; another status does not find it. -/
theorem finds_logged_tiny :
    let plan := ({} : LoggerOptions Unit).planWith { format := .text "tiny" } false
      (.compiled ⟨0, Format.tiny, Template.references Format.tiny⟩)
    let l : Logger Nat := { counting plan with omitAbsent := true }
    let scope := { Scope.ofPath "/logs" with query := some (.bytes (ascii "limit=5")) }
    let served := l.serve failing scope (.send (.starting 200) fun _ => .done) 0
    let p : Parameters := { method := some "get", status := some 200, url := some "/logs?limit=5" }
    ∃ d, served.events.filterMap Event.batch? = [[d]] ∧ d.Matches p.filter ∧
      ¬d.Matches { p with status := some 404 }.filter := by
  intro plan l scope served p
  have hscope : scope.IsRequest :=
    { Scope.isRequest_ofPath "/logs" with
      query := fun v hv => .inr ⟨_, (Option.some.inj hv).symm⟩ }
  have htiny : ("tiny", .value (.text Format.tiny)) ∈
      (Format.builtin : List (String × Format.Spec Unit)) := by
    simp [Format.builtin]
  obtain ⟨lines, catalog, hlookup⟩ := Format.lookup_builtin htiny
  have hplan : (({} : LoggerOptions Unit).plan { format := .text "tiny" } false
      Catalog.builtin).result = .ok plan := by
    rw [LoggerOptions.plan_apply]
    dsimp only [LoggerOptions.formatFor]
    rw [hlookup]
    rfl
  have hl : l.LogsBuiltin := Logger.logsBuiltin_of_plan rfl htiny hplan rfl _ _ _ _ false true none
  have hstarts : served.events.filterMap Event.start? = [(.starting 200, true)] := by
    rw [starts_serve hscope rfl]
    rfl
  have hsimple : ∀ start ∈ served.events.filterMap Event.start?,
      ∀ v ∈ start.1.status, v.isSimple = true := by
    rw [hstarts]
    simp [Message.starting, Value.isSimple]
  obtain ⟨hsubmitted, hmatches⟩ := finds_logged hl hscope failing _ 0 hsimple
  have hwritable : ∀ start ∈ served.events.filterMap Event.start?,
      ∀ v ∈ start.1.status, v.IsWritable := by
    have hnumber : (Value.int 200).IsWritable := ⟨_, rfl⟩
    rw [hstarts]
    simpa [Message.starting] using hnumber
  obtain ⟨d, hd⟩ := hsubmitted rfl hwritable
  obtain ⟨d', hd', hnamed, hother⟩ := hmatches [d] (by rw [hd]; exact List.mem_singleton_self _)
  obtain rfl : d = d' := List.singleton_inj.mp hd'
  have hmethod : Text.upper "get" = scope.loggedMethod := by decide
  have hurl : "/logs?limit=5" = scope.loggedUrl := by decide
  refine ⟨d, hd, ?_, ?_⟩
  · refine hnamed _ 200 hstarts rfl p ?_ ?_ ?_
    · simpa [p] using hmethod
    · simp [p]
    · simpa [p] using hurl
  · rw [hother { p with status := some 404 } "get" 404 "/logs?limit=5" rfl rfl rfl (by decide)
      (by decide)]
    rw [show List.filterMap _ _ = _ from hstarts]
    intro h
    exact absurd h.2.1 (by decide)

end Service

end RequestLog
