import RequestLog.Log.Setup
import RequestLog.Proofs.Logger.Course
import RequestLog.Proofs.Logger.Watch

/-!
# Logging once

`LogsOnce` is what one logging of an exchange leaves among the events: the skip predicate and the
builder are asked at most once, a batch goes to the sink at most once, with the one document and
exactly under the condition for it, and a fault that has a wording becomes one line. Every course
has it (`Course.logsOnce`), and all that is noted of logging while a request is served comes from
one course, before the first event of the application (`logging_arrival`) or after its last one
(`exists_finish`). The main statement is `serve_logs_once`.
-/

namespace RequestLog

variable {ε Q R σ : Type}

namespace Event

/-- No event that `p` holds of comes after one that `q` holds of. -/
def Before (p q : Event Q ε → Bool) (events : List (Event Q ε)) : Prop :=
  events.Pairwise fun e e' => q e → p e' = false

/-- Two parts, of which `q` holds of nothing in the first and `p` of nothing in the second. -/
theorem Before.append {p q : Event Q ε → Bool} {front back : List (Event Q ε)}
    (hfront : ∀ e ∈ front, q e = false) (hback : ∀ e ∈ back, p e = false) :
    Before p q (front ++ back) := by
  refine List.pairwise_append.mpr ⟨?_, ?_, ?_⟩
  · refine List.pairwise_of_forall_mem_list fun e he e' _ hq => ?_
    simp [hfront e he] at hq
  · exact List.pairwise_of_forall_mem_list fun e _ e' he' _ => hback e' he'
  · exact fun e he e' he' _ => hback e' he'

theorem filter_eq_nil {p : Event Q ε → Bool} {events : List (Event Q ε)}
    (h : ∀ e ∈ events, p e = false) : events.filter p = [] :=
  List.filter_eq_nil_iff.mpr fun e he => by simp [h e he]

end Event

namespace Logger

variable {l : Logger σ} {request : Request} {response : Response} {s : σ}

/-- The exchange is logged once and not more among the events. -/
structure LogsOnce (l : Logger σ) (request : Request) (response : Response) (s : σ)
    (events : List (Event Q ε)) : Prop where
  skip_once : events.countP Event.isSkipAsked ≤ 1
  build_once : events.countP Event.isBuildAsked ≤ 1
  batch_once : (events.filterMap Event.batch?).length ≤ 1
  batch_iff (batch : List Document) : batch ∈ events.filterMap Event.batch? ↔
    ∃ d, batch = [d] ∧ l.Submits request response s d
  triggered : events.filterMap Event.batch? ≠ [] ↔ ∃ s₁ b,
    l.admission request response s = some s₁ ∧
      (l.building request response s₁).result = .ok b ∧ b.Carries ∧
      (∃ literal, b.literal = .ok literal) ∧ ∃ d, b.document l.omitAbsent = .ok d
  reported (f : Fault) (wording : String) : l.Fails request response s f →
    f.message = .ok wording →
      events.filterMap Event.error? = l.builderErrors request response s ++ [failedLine wording]
  quiet : (∀ f, ¬ l.Fails request response s f) →
    events.filterMap Event.error? = l.builderErrors request response s

/-! ### Courses log once -/

section Opening

variable (l request response) (lines : List LogLine)

theorem countP_logged {p : Event Q ε → Bool} (h : ∀ line, p (.logged line) = false) :
    (lines.map .logged).countP p = 0 := by
  rw [List.countP_eq_zero]
  intro e he
  obtain ⟨line, -, rfl⟩ := List.mem_map.mp he
  simp [h line]

/-- Before a record is built it is asked at most once whether the exchange is left out. -/
theorem countP_isSkipAsked_opening :
    (l.opening request response lines : List (Event Q ε)).countP Event.isSkipAsked ≤ 1 := by
  have hlines : (lines.map .logged : List (Event Q ε)).countP Event.isSkipAsked = 0 :=
    countP_logged lines fun _ => rfl
  unfold opening skipAsked
  split <;> simp [List.countP_cons, Event.isSkipAsked, hlines]

/-- The builder is asked once. -/
theorem countP_isBuildAsked_opening :
    (l.opening request response lines : List (Event Q ε)).countP Event.isBuildAsked = 1 := by
  have hlines : (lines.map .logged : List (Event Q ε)).countP Event.isBuildAsked = 0 :=
    countP_logged lines fun _ => rfl
  unfold opening skipAsked
  split <;> simp [List.countP_cons, Event.isBuildAsked, hlines]

/-- Nothing is submitted until a record has been built. -/
theorem batches_opening :
    (l.opening request response lines : List (Event Q ε)).filterMap Event.batch? = [] := by
  unfold opening skipAsked
  split <;> simp [List.filterMap_cons, Event.batch?]

/-- The errors until a record has been built are those of the builder. -/
theorem errors_opening :
    (l.opening request response lines : List (Event Q ε)).filterMap Event.error? =
      lines.filter (·.level = .error) := by
  have hlines : (lines.map .logged : List (Event Q ε)).filterMap Event.error? =
      lines.filter (·.level = .error) := by
    rw [List.filterMap_map, ← List.filterMap_eq_filter]
    congr 1
  unfold opening skipAsked
  split <;> simp [List.filterMap_cons, Event.error?, Event.line?, hlines]

/-- All that is noted until a record has been built is logging. -/
theorem isLogging_opening :
    ∀ e ∈ (l.opening request response lines : List (Event Q ε)), e.isLogging := by
  unfold opening skipAsked
  split <;> simp [Event.isLogging]

end Opening

section Report

variable (f : Fault)

/-- The report of a fault is a line of the log. -/
theorem exists_line_of_report : ∀ e ∈ (report f : List (Event Q ε)), ∃ line, e = .logged line := by
  intro e he
  obtain ⟨line, -, rfl⟩ := List.mem_map.mp he
  exact ⟨line, rfl⟩

/-- A report is none of the events that are no lines. -/
theorem countP_report {p : Event Q ε → Bool} (h : ∀ line, p (.logged line) = false) :
    (report f : List (Event Q ε)).countP p = 0 :=
  countP_logged _ h

/-- A report submits nothing. -/
theorem batches_report : (report f : List (Event Q ε)).filterMap Event.batch? = [] := by
  simp [report, Event.batch?]

/-- A report is one error, if the fault has a wording. -/
theorem errors_report :
    (report f : List (Event Q ε)).filterMap Event.error? =
      (f.message.toOption.map failedLine).toList := by
  unfold report
  cases f.message.toOption <;> rfl

/-- A report is logging. -/
theorem isLogging_report : ∀ e ∈ (report f : List (Event Q ε)), e.isLogging := by
  intro e he
  obtain ⟨line, rfl⟩ := exists_line_of_report f e he
  rfl

end Report

/-- Where nothing is built, the builder writes nothing. -/
theorem builderErrors_of_none (ha : l.admission request response s = none) :
    l.builderErrors request response s = [] := by
  unfold builderErrors
  rw [ha]

/-- Where something is built, the errors of the builder are among what it writes. -/
theorem builderErrors_of_some {s₁ : σ} (ha : l.admission request response s = some s₁) :
    l.builderErrors request response s =
      (l.building request response s₁).events.filter (·.level = .error) := by
  unfold builderErrors
  rw [ha]

namespace Course

variable {events : List (Event Q ε)} {d? : Option Document} {f? : Option Fault}

/-- It is asked at most once whether the exchange is left out. -/
theorem skip_once (h : l.Course request response s events d? f?) :
    events.countP Event.isSkipAsked ≤ 1 := by
  have hreport : ∀ f, (report f : List (Event Q ε)).countP Event.isSkipAsked = 0 :=
    fun f => countP_report f fun _ => rfl
  cases h with
  | skipFailed => simp [List.countP_cons, Event.isSkipAsked, hreport]
  | skipped => simp [List.countP_cons, Event.isSkipAsked]
  | _ =>
      simpa [List.countP_append, List.countP_cons, Event.isSkipAsked, hreport] using
        countP_isSkipAsked_opening (ε := ε) (Q := Q) l request response _

/-- The record is built at most once. -/
theorem build_once (h : l.Course request response s events d? f?) :
    events.countP Event.isBuildAsked ≤ 1 := by
  have hreport : ∀ f, (report f : List (Event Q ε)).countP Event.isBuildAsked = 0 :=
    fun f => countP_report f fun _ => rfl
  cases h <;>
    simp [List.countP_append, Event.isBuildAsked, countP_isBuildAsked_opening, hreport]

/-- The batches of a course are the one document that it submits, if any. -/
theorem batches (h : l.Course request response s events d? f?) :
    events.filterMap Event.batch? = d?.toList.map fun d => [d] := by
  cases h <;>
    simp [List.filterMap_append, List.filterMap_cons, Event.batch?, batches_opening,
      batches_report]

/-- The errors of a course are those of the builder and the one fault that it reports, if it has one
and can word it. -/
theorem errors (h : l.Course request response s events d? f?) :
    events.filterMap Event.error? = l.builderErrors request response s ++
      (f?.bind fun f => f.message.toOption.map failedLine).toList := by
  cases h with
  | skipFailed hp ha =>
      rw [builderErrors_of_none (admission_eq_none hp ha (by simp))]
      exact errors_report _
  | skipped hp ha hv =>
      rw [builderErrors_of_none (admission_eq_none hp ha (by simp [hv]))]
      rfl
  | buildFailed ha | unreadable ha | unshown ha | undocumented ha | submitFailed ha =>
      rw [builderErrors_of_some ha, List.filterMap_append, errors_opening]
      exact congrArg _ (errors_report _)
  | absent ha | submitted ha =>
      rw [builderErrors_of_some ha, List.filterMap_append, errors_opening]
      rfl

/-- All that is noted in a course is logging. -/
theorem isLogging (h : l.Course request response s events d? f?) : ∀ e ∈ events, e.isLogging := by
  cases h with
  | skipFailed => exact List.forall_mem_cons.mpr ⟨rfl, isLogging_report _⟩
  | skipped => simp [Event.isLogging]
  | absent | submitted =>
      rw [List.forall_mem_append]
      exact ⟨isLogging_opening l request response _, by simp [Event.isLogging]⟩
  | _ =>
      rw [List.forall_mem_append]
      refine ⟨isLogging_opening l request response _, ?_⟩
      simpa [Event.isLogging] using isLogging_report _

/-- Nothing in a course is between server and application. -/
theorem not_isExchange (h : l.Course request response s events d? f?) :
    ∀ e ∈ events, e.isExchange = false := fun e he =>
  Event.not_isExchange_of_isLogging (h.isLogging e he)

/-- A course logs the exchange once. -/
theorem logsOnce (h : l.Course request response s events d? f?) :
    l.LogsOnce request response s events where
  skip_once := h.skip_once
  build_once := h.build_once
  batch_once := by
    rw [h.batches, List.length_map]
    exact Option.length_toList_le
  batch_iff batch := by
    simp only [h.batches, List.mem_map, Option.mem_toList, h.submits_iff]
    constructor
    · rintro ⟨d, hd, rfl⟩
      exact ⟨d, rfl, hd⟩
    · rintro ⟨d, rfl, hd⟩
      exact ⟨d, hd, rfl⟩
  triggered := by
    rw [h.batches, ne_eq, List.map_eq_nil_iff]
    constructor
    · intro hne
      obtain ⟨d, hd⟩ := List.exists_mem_of_ne_nil _ hne
      obtain ⟨s₁, b, ha, hb, hc, hl, hdocument⟩ := (h.submits_iff d).mpr (Option.mem_toList.mp hd)
      exact ⟨s₁, b, ha, hb, hc, hl, d, hdocument⟩
    · intro htrigger hnil
      obtain ⟨s₁, b, ha, hb, hc, hl, d, hd⟩ := htrigger
      obtain rfl : d? = some d := (h.submits_iff d).mp ⟨s₁, b, ha, hb, hc, hl, hd⟩
      cases hnil
  reported f wording hf hwording := by
    rw [h.errors, (h.fails_iff f).mp hf]
    simp [hwording, Except.toOption]
  quiet hquiet := by
    cases hf : f? with
    | none => rw [h.errors, hf, Option.bind_none, Option.toList_none, List.append_nil]
    | some f => exact absurd ((h.fails_iff f).mpr hf) (hquiet f)

end Course

/-- What is counted of the logging is counted of all events. -/
theorem LogsOnce.of_filter {events : List (Event Q ε)}
    (h : l.LogsOnce request response s (events.filter Event.isLogging)) :
    l.LogsOnce request response s events := by
  have hcount : ∀ p : Event Q ε → Bool, (∀ e, p e → e.isLogging) →
      (events.filter Event.isLogging).countP p = events.countP p := by
    intro p hp
    rw [List.countP_filter]
    refine List.countP_congr fun e _ => ?_
    simpa using hp e
  have hskip := hcount Event.isSkipAsked fun e he => by
    cases e <;> first | rfl | cases he
  have hbuild := hcount Event.isBuildAsked fun e he => by
    cases e <;> first | rfl | cases he
  have hbatch : (events.filter Event.isLogging).filterMap Event.batch? =
      events.filterMap Event.batch? :=
    Event.filterMap_filter (fun _ he => Event.batch?_eq_none he) events
  have herror : (events.filter Event.isLogging).filterMap Event.error? =
      events.filterMap Event.error? :=
    Event.filterMap_filter (fun e he => by cases e <;> first | rfl | cases he) events
  constructor
  case skip_once => exact hskip ▸ h.skip_once
  case build_once => exact hbuild ▸ h.build_once
  case batch_once => exact hbatch ▸ h.batch_once
  case batch_iff => exact hbatch ▸ h.batch_iff
  case triggered => exact hbatch ▸ h.triggered
  case reported => exact herror ▸ h.reported
  case quiet => exact herror ▸ h.quiet

/-! ### When a request is served -/

/-- The request, the response and the state with which an exchange is logged: in immediate mode
those at the arrival, which hang on the clock alone, else those at the end of the application. -/
inductive LogsAt (l : Logger σ) (w : Surroundings ε Q R σ) (scope : Scope) (app : App Q R) (s : σ) :
    Request → Response → σ → Prop
  | arrival {request : Request} (hi : l.immediate = true)
      (hr : Request.ofScope scope l.trustProxy = .ok request) :
      LogsAt l w scope app s (request.markedAt (l.clock s).1)
        (({} : Response).markedAt (l.clock (l.clock s).2).1) (l.clock (l.clock s).2).2
  | finish {request : Request} {response : Response} {events : List (Event Q ε)}
      {outcome : Except Fault Unit} {s₁ : σ} (hi : l.immediate = false)
      (hr : Request.ofScope scope l.trustProxy = .ok request)
      (hw : l.watch w app {} (l.clock s).2 = ⟨events, .ok (response, outcome), s₁⟩) :
      LogsAt l w scope app s (request.markedAt (l.clock s).1) response s₁

/-- The request that is logged is the one in the scope, with its arrival marked. -/
theorem LogsAt.exists_request {w : Surroundings ε Q R σ} {scope : Scope} {app : App Q R}
    {s s₁ : σ} (h : l.LogsAt w scope app s request response s₁) :
    ∃ arrived, Request.ofScope scope l.trustProxy = .ok arrived ∧
      request = arrived.markedAt (l.clock s).1 := by
  cases h with
  | arrival _ hr => exact ⟨_, hr, rfl⟩
  | finish _ hr => exact ⟨_, hr, rfl⟩

/-- Whatever goes wrong in logging the exchange has a wording. -/
def LogsInWords (l : Logger σ) (w : Surroundings ε Q R σ) (scope : Scope) (app : App Q R) (s : σ) :
    Prop :=
  ∀ request response s₁ f, l.LogsAt w scope app s request response s₁ →
    l.Fails request response s₁ f → f.IsWorded

/-- Where what goes wrong has a wording, logging comes to an end without a fault. -/
theorem LogsInWords.logRequest_ok {w : Surroundings ε Q R σ} {scope : Scope} {app : App Q R}
    {s s₁ : σ} (h : l.LogsInWords w scope app s)
    (hat : l.LogsAt w scope app s request response s₁) :
    ∃ b, ((l.logRequest request response : Act (Event Q ε) σ (Option Built)) s₁).result = .ok b :=
  Logger.logRequest_ok fun f hf => h request response s₁ f hat hf

variable (l) (w : Surroundings ε Q R σ) {scope : Scope}

/-- All that is noted when an exchange is logged is logging. -/
theorem isLogging_logRequest (request : Request) (response : Response) (s : σ) :
    ∀ e ∈ ((l.logRequest request response : Act (Event Q ε) σ (Option Built)) s).events,
      e.isLogging = true := by
  obtain ⟨d, f, hcourse, -⟩ := course_logRequest (ε := ε) (Q := Q) l request response s
  exact hcourse.isLogging

/-- Nothing that logging notes is between server and application. -/
theorem not_isExchange_logRequest (request : Request) (response : Response) (s : σ) :
    ∀ e ∈ ((l.logRequest request response : Act (Event Q ε) σ (Option Built)) s).events,
      e.isExchange = false := fun e he =>
  Event.not_isExchange_of_isLogging (isLogging_logRequest l request response s e he)

/-- A call of an application is no logging. -/
theorem not_isLogging_call (app : App Q R) (s : σ) :
    ∀ e ∈ (app.call w s).events, e.isLogging = false := fun e he =>
  Event.not_isLogging_of_isExchange (app.notes_call w s e he)

variable {l w}

/-- What a request that is logged at its arrival notes: two readings of the clock, the logging, and
then what is between server and application. -/
theorem events_arrival (h : scope.kind = some (.text "http")) (hi : l.immediate = true)
    (hr : Request.ofScope scope l.trustProxy = .ok request) (app : App Q R) (s : σ) :
    let logging : Outcome (Event Q ε) σ (Option Built) :=
      l.logRequest (request.markedAt (l.clock s).1)
        (({} : Response).markedAt (l.clock (l.clock s).2).1) (l.clock (l.clock s).2).2
    ∃ exchanged, (l.serve w scope app s).events =
        .clockRead (l.clock s).1 :: .clockRead (l.clock (l.clock s).2).1 ::
          (logging.events ++ exchanged) ∧
      ∀ e ∈ exchanged, e.isExchange = true := by
  intro logging
  rw [serve_arrival h hi hr app s, Outcome.after_events]
  split
  · exact ⟨_, rfl, app.notes_call w logging.state⟩
  · exact ⟨[], rfl, nofun⟩

/-- At the arrival the logging comes before the application, and is all the logging there is. -/
theorem logging_arrival (h : scope.kind = some (.text "http")) (hi : l.immediate = true)
    (hr : Request.ofScope scope l.trustProxy = .ok request) (app : App Q R) (s : σ) :
    Event.Before Event.isLogging Event.isExchange (l.serve w scope app s).events ∧
      (l.serve w scope app s).events.filter Event.isLogging =
        ((l.logRequest (request.markedAt (l.clock s).1)
          (({} : Response).markedAt (l.clock (l.clock s).2).1) : Act (Event Q ε) σ (Option Built))
            (l.clock (l.clock s).2).2).events := by
  have hlogging := isLogging_logRequest (ε := ε) (Q := Q) l (request.markedAt (l.clock s).1)
    (({} : Response).markedAt (l.clock (l.clock s).2).1) (l.clock (l.clock s).2).2
  obtain ⟨exchanged, hserved, hexchanged⟩ := events_arrival (w := w) h hi hr app s
  have hnone : ∀ e ∈ exchanged, e.isLogging = false := fun e he =>
    Event.not_isLogging_of_isExchange (hexchanged e he)
  rw [hserved]
  constructor
  · rw [← List.cons_append, ← List.cons_append]
    refine Event.Before.append (fun e he => ?_) hnone
    rcases List.mem_cons.mp he with rfl | he
    · rfl
    rcases List.mem_cons.mp he with rfl | he
    · rfl
    · exact Event.not_isExchange_of_isLogging (hlogging e he)
  · rw [← List.cons_append, ← List.cons_append, List.filter_append, Event.filter_eq_nil hnone,
      List.append_nil]
    exact List.filter_eq_self.mpr hlogging

/-- What serving a request notes that is logged at the end: what the watched application does, and
then one course of logging. -/
structure Finish (l : Logger σ) (w : Surroundings ε Q R σ) (scope : Scope) (app : App Q R) (s : σ)
    (request : Request) (response : Response) (s₁ : σ) (watched logged : List (Event Q ε))
    (d? : Option Document) (f? : Option Fault) : Prop where
  at_end : l.LogsAt w scope app s request response s₁
  plain : request.IsPlain
  run : ∃ result, Watched app {} watched response result
  course : l.Course request response s₁ logged d? f?
  events_eq : (l.serve w scope app s).events = .clockRead (l.clock s).1 :: watched ++ logged

/-- A request that is logged at the end is served in this way. -/
theorem exists_finish (h : scope.IsRequest) (hi : l.immediate = false) (w : Surroundings ε Q R σ)
    (app : App Q R) (s : σ) :
    ∃ request response s₁ watched logged d? f?,
      l.Finish w scope app s request response s₁ watched logged d? f? := by
  obtain ⟨request, hr, hplain⟩ := Request.ofScope_ok h l.trustProxy
  obtain ⟨events, response, result, s₁, hw, hwatched⟩ := l.watch_watched w app {} (l.clock s).2
  obtain ⟨d, f, hcourse, -⟩ := course_logRequest (ε := ε) (Q := Q) l
    (request.markedAt (l.clock s).1) response s₁
  have hevents := congrArg Outcome.events (serve_finish h.kind hi hr hw)
  exact ⟨_, _, _, _, _, _, _, .finish hi hr hw, hplain.markedAt _, ⟨result, hwatched⟩, hcourse,
    hevents⟩

namespace Finish

variable {app : App Q R} {s₁ : σ} {watched logged : List (Event Q ε)} {d? : Option Document}
  {f? : Option Fault}

/-- Nothing is logged before the application has ended. -/
theorem not_isLogging (h : l.Finish w scope app s request response s₁ watched logged d? f?) :
    ∀ e ∈ Event.clockRead (l.clock s).1 :: watched, e.isLogging = false := by
  obtain ⟨result, hwatched⟩ := h.run
  simpa [Event.isLogging] using hwatched.not_isLogging

/-- At the end the logging comes after the application. -/
theorem before (h : l.Finish w scope app s request response s₁ watched logged d? f?) :
    Event.Before Event.isExchange Event.isLogging (l.serve w scope app s).events := by
  rw [h.events_eq]
  exact Event.Before.append h.not_isLogging h.course.not_isExchange

/-- What is logged at the end is all the logging there is. -/
theorem filter_isLogging (h : l.Finish w scope app s request response s₁ watched logged d? f?) :
    (l.serve w scope app s).events.filter Event.isLogging = logged := by
  rw [h.events_eq, List.filter_append, Event.filter_eq_nil h.not_isLogging, List.nil_append]
  exact List.filter_eq_self.mpr h.course.isLogging

end Finish

variable (l w)

/-- **Logging once.**  Every request is logged once, with the request, the response and the state of
one moment.  In immediate mode nothing of the logging comes after an event of the application, and
the logging is the same for any other application; otherwise no event of the application comes after
the logging, also when the application fails. -/
theorem serve_logs_once (h : scope.IsRequest) (app : App Q R) (s : σ) :
    ∃ request response s₁, l.LogsAt w scope app s request response s₁ ∧
      l.LogsOnce request response s₁ (l.serve w scope app s).events ∧
      (l.immediate = true →
        Event.Before Event.isLogging Event.isExchange (l.serve w scope app s).events ∧
        ∀ app' : App Q R, l.LogsAt w scope app' s request response s₁ ∧
          (l.serve w scope app' s).events.filter Event.isLogging =
            (l.serve w scope app s).events.filter Event.isLogging) ∧
      (l.immediate = false →
        Event.Before Event.isExchange Event.isLogging (l.serve w scope app s).events) := by
  obtain ⟨request, hr, -⟩ := Request.ofScope_ok h l.trustProxy
  cases hi : l.immediate with
  | true =>
      obtain ⟨d, f, hcourse, -⟩ := course_logRequest (ε := ε) (Q := Q) l
        (request.markedAt (l.clock s).1) (({} : Response).markedAt (l.clock (l.clock s).2).1)
        (l.clock (l.clock s).2).2
      obtain ⟨hbefore, hfilter⟩ := logging_arrival (w := w) h.kind hi hr app s
      refine ⟨_, _, _, .arrival hi hr, .of_filter ?_, fun _ => ⟨hbefore, fun app' => ?_⟩, nofun⟩
      · rw [hfilter]
        exact hcourse.logsOnce
      · exact ⟨.arrival hi hr, (logging_arrival h.kind hi hr app' s).2.trans hfilter.symm⟩
  | false =>
      obtain ⟨request, response, s₁, watched, logged, d, f, hfinish⟩ :=
        exists_finish h hi w app s
      refine ⟨_, _, _, hfinish.at_end, .of_filter ?_, nofun, fun _ => hfinish.before⟩
      rw [hfinish.filter_isLogging]
      exact hfinish.course.logsOnce

/-- An application that starts a response twice is logged once. -/
theorem serve_logs_once_refusing :
    let served := ofStatus.serve (.refusing 3) (.ofPath "/logs") .startingTwice 0
    (Scope.ofPath "/logs").IsRequest ∧ (served.events.filterMap Event.batch?).length = 1 ∧
      ∃ request response s₁, ofStatus.LogsOnce request response s₁ served.events := by
  intro served
  have hscope : (Scope.ofPath "/logs").IsRequest := Scope.isRequest_ofPath _
  obtain ⟨request, response, s₁, -, honce, -⟩ :=
    serve_logs_once ofStatus (.refusing 3) hscope .startingTwice 0
  exact ⟨hscope, rfl, request, response, s₁, honce⟩

/-- Nothing is submitted of a builder that gives a number, although nothing leaves the exchange out
and the builder does not fail. The line about it is not let through by a log that is set up for
critical failures alone. And a builder that fails with a fault that has no wording leaves no line;
what is left is the fault that asking for the wording is, in the place of what the application came
to. -/
theorem unsubmitted_unreported :
    let number : Logger Nat := { ofStatus with build := fun _ => return .value (.int 5) }
    let mute : Logger Nat :=
      { ofStatus with build := fun _ => Act.fail (.wordless .value .integerUnwritable) }
    let served := number.serve (.refusing 3) (.ofPath "/logs") .startingTwice 0
    let served' := mute.serve (.refusing 3) (.ofPath "/logs") .startingTwice 0
    (Scope.ofPath "/logs").IsRequest ∧ number.skip = none ∧
      served.events.countP Event.isBuildAsked = 1 ∧ served.events.filterMap Event.batch? = [] ∧
      (∃ log line, Log.Setup.install { level := .text "CRITICAL" } {} = (.ok (), log) ∧
        served.events.filterMap Event.error? = [line] ∧ log.letsLine line = false) ∧
      served'.events.filterMap Event.error? = [] ∧
      served'.result = .error .integerUnwritable := by
  refine ⟨Scope.isRequest_ofPath _, rfl, rfl, rfl, ⟨_, _, rfl, rfl, ?_⟩, rfl, rfl⟩
  decide +kernel

end Logger

end RequestLog
