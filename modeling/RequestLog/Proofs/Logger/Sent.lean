import RequestLog.Proofs.Logger.Once

/-!
# What a logged response shows

Status and headers of the response that is logged follow from the messages alone with which the
application tried to start a response (`Event.start?`). Each of them takes the place of what was
known before, whether or not the server takes it, and the headers count as sent as soon as the
server has taken one (`Told.andThen`, `Watched.told`). So the logged response shows the start that
was tried last, which need not be one that the server took: `logged_response_shows` says when it
is, and that nothing is shown as long as no start was taken.
-/

namespace RequestLog

variable {ε Q R σ : Type}

/-- What is told of a response: its status, its headers, and whether they count as sent. -/
structure Told where
  status : Value
  headers : Headers
  sent : Bool

namespace Told

/-- What is told of a response after one more try to start it. -/
def andThen (t : Told) (start : Message × Bool) : Told :=
  ⟨start.1.status.getD .absent, ⟨start.1.headers.getD []⟩, t.sent || start.2⟩

/-- The headers count as sent as soon as one start was taken. -/
theorem sent_foldl (t : Told) (starts : List (Message × Bool)) :
    (starts.foldl andThen t).sent = (t.sent || starts.any (·.2)) := by
  induction starts generalizing t with
  | nil => simp
  | cons start rest ih =>
      rw [List.foldl_cons, ih, List.any_cons, ← Bool.or_assoc]
      rfl

end Told

namespace Response

/-- What is told of a response. -/
def told (r : Response) : Told := ⟨r.statusCode, r.headers, r.headersSent.truth⟩

/-- The response has the status and the headers of the message. -/
def Shows (r : Response) (m : Message) : Prop :=
  r.statusCode = m.status.getD .absent ∧ r.headers = ⟨m.headers.getD []⟩

theorem told_sentWith (r : Response) (outcome : Except Fault Unit) :
    (r.sentWith outcome).told = ⟨r.statusCode, r.headers, r.headersSent.truth || outcome.isOk⟩ := by
  unfold sentWith
  cases outcome with
  | error f => simp [told, Except.isOk, Except.toBool]
  | ok u => simp [told, Except.isOk, Except.toBool, Value.truth]

end Response

namespace Logger

variable {r r' : Response} {events : List (Event Q ε)} {result : Except Fault Unit}

/-- Letting a message through changes what is told by the start that it is, if it is one. -/
theorem Forwarded.told {m : Message} {outcome : Except Fault Unit}
    (h : Forwarded r m events r' outcome) :
    r'.told = (events.filterMap Event.start?).foldl Told.andThen r.told := by
  cases h with
  | untyped => rfl
  | first hm =>
      rw [Response.told_sentWith]
      simp [List.filterMap_cons, Event.start?, hm, Told.andThen, Response.captureStart,
        Response.markedAt, Response.told]
  | again hm =>
      rw [Response.told_sentWith]
      simp [Event.start?, hm, Told.andThen, Response.captureStart, Response.told]
  | other hm =>
      simp only [List.filterMap_cons, Event.start?, hm, Bool.false_eq_true, if_false,
        List.filterMap_nil, List.foldl_nil]
      split <;> rfl

/-- What is told at the end of a run follows from the starts that were tried in it. -/
theorem Watched.told {app : App Q R} (h : Watched app r events r' result) :
    r'.told = (events.filterMap Event.start?).foldl Told.andThen r.told := by
  induction h with
  | done => rfl
  | fail => rfl
  | send hforward _ ih => rw [List.filterMap_append, List.foldl_append, ← hforward.told, ih]
  | receive _ ih => exact ih
  | ask _ ih =>
      rw [List.filterMap_append, Event.starts_asked, List.nil_append]
      exact ih

/-! ### What is logged -/

namespace Course

variable {l : Logger σ} {request : Request} {response : Response} {s : σ} {d? : Option Document}
  {f? : Option Fault}

/-- A course asks the builder for its own request and response alone. -/
theorem buildAsked_eq (h : l.Course request response s events d? f?) {request' : Request}
    {response' : Response} (hbuild : .buildAsked request' response' ∈ events) :
    request' = request ∧ response' = response := by
  have hopening : ∀ lines : List LogLine,
      (Event.buildAsked request' response' : Event Q ε) ∈ l.opening request response lines →
        request' = request ∧ response' = response := by
    intro lines hmem
    unfold opening skipAsked at hmem
    split at hmem <;> simpa using hmem
  have hreport : ∀ f : Fault, (Event.buildAsked request' response' : Event Q ε) ∉ report f := by
    intro f hmem
    obtain ⟨line, hline⟩ := exists_line_of_report f _ hmem
    cases hline
  cases h with
  | skipFailed => simp [hreport] at hbuild
  | skipped => simp at hbuild
  | _ =>
      rcases List.mem_append.mp hbuild with hmem | hmem
      · exact hopening _ hmem
      · simp [hreport] at hmem

end Course

variable {l : Logger σ} {w : Surroundings ε Q R σ} {scope : Scope} {app : App Q R} {s : σ}
  {request : Request} {response : Response}

/-- A response that is logged at the end is told by the starts that were tried. -/
theorem told_serve (h : scope.IsRequest) (hi : l.immediate = false)
    (hbuild : .buildAsked request response ∈ (l.serve w scope app s).events) :
    response.told = ((l.serve w scope app s).events.filterMap Event.start?).foldl Told.andThen
      ({} : Response).told := by
  obtain ⟨request₀, response₀, s₁, watched, logged, d, f, hfinish⟩ := exists_finish h hi w app s
  obtain ⟨result, hwatched⟩ := hfinish.run
  rw [hfinish.events_eq] at hbuild ⊢
  have hlogged : .buildAsked request response ∈ logged := by
    rcases List.mem_append.mp hbuild with hmem | hmem
    · exact absurd (hfinish.not_isLogging _ hmem) (by simp [Event.isLogging])
    · exact hmem
  obtain ⟨-, rfl⟩ := hfinish.course.buildAsked_eq hlogged
  rw [List.filterMap_append, Event.starts_eq_nil hfinish.course.not_isExchange, List.append_nil]
  exact hwatched.told

/-- Some start that the server took tells what the last one that was tried tells. -/
def LastIsTaken (starts : List (Message × Bool)) : Prop :=
  ∀ last ∈ starts.getLast?, ∃ m, (m, true) ∈ starts ∧
    m.status.getD .absent = last.1.status.getD .absent ∧ m.headers.getD [] = last.1.headers.getD []

/-- A response that is told by starts shows the last one of them. -/
theorem shows_last {starts : List (Message × Bool)} {last : Message × Bool}
    (h : response.told = starts.foldl Told.andThen ({} : Response).told)
    (hlast : starts.getLast? = some last) : response.Shows last.1 := by
  obtain ⟨before, rfl⟩ := List.getLast?_eq_some_iff.mp hlast
  rw [List.foldl_append] at h
  exact ⟨congrArg Told.status h, congrArg Told.headers h⟩

/-- Showing one message is showing another one that tells the same. -/
theorem shows_iff {m m' : Message} (h : response.Shows m) :
    response.Shows m' ↔ m'.status.getD .absent = m.status.getD .absent ∧
      m'.headers.getD [] = m.headers.getD [] := by
  unfold Response.Shows
  rw [h.1, h.2, Headers.mk.injEq]
  exact and_congr eq_comm eq_comm

/-- **What a logged response shows.**  When the record of a response is built at its end, the
headers count as sent exactly if the server took a start. If it took none, the status and header
tokens are absent; else the response and these tokens show the start that was tried last. This is
what a start that was taken tells if and only if one of those tells what the last one tells. -/
theorem logged_response_shows (h : scope.IsRequest) (hi : l.immediate = false)
    (hbuild : .buildAsked request response ∈ (l.serve w scope app s).events)
    (now : Moment) (argument : Option String) :
    let starts := (l.serve w scope app s).events.filterMap Event.start?
    let sight : Sight := ⟨request, response, now⟩
    (response.headersSent.truth = starts.any (·.2)) ∧
    (starts.any (·.2) = false →
      Token.Builtin.status.evaluate sight argument = .ok .absent ∧
        Token.Builtin.responseHeader.evaluate sight argument = .ok .absent) ∧
    (starts.any (·.2) = true → ∃ last, starts.getLast? = some last ∧ response.Shows last.1 ∧
      Token.Builtin.status.evaluate sight argument = .ok (last.1.status.getD .absent) ∧
        Token.Builtin.responseHeader.evaluate sight argument =
          Token.Builtin.joined ⟨last.1.headers.getD []⟩ argument) ∧
    ((response.headersSent.truth = true → ∃ m, (m, true) ∈ starts ∧ response.Shows m) ↔
      (starts.any (·.2) = true → LastIsTaken starts)) := by
  intro starts sight
  have htold : response.told = starts.foldl Told.andThen ({} : Response).told :=
    told_serve h hi hbuild
  have hsent : response.headersSent.truth = starts.any (·.2) := by
    have hfold := congrArg Told.sent htold
    rwa [Told.sent_foldl] at hfold
  have hlast : starts.any (·.2) = true → ∃ last, starts.getLast? = some last := by
    intro hany
    cases hstarts : starts.getLast? with
    | some last => exact ⟨last, rfl⟩
    | none =>
        rw [List.getLast?_eq_none_iff.mp hstarts] at hany
        cases hany
  refine ⟨hsent, ?_, ?_, ?_⟩
  · intro hnone
    simp [Token.Builtin.evaluate, sight, hsent, hnone]
  · intro hany
    obtain ⟨last, hlast⟩ := hlast hany
    have hshows := shows_last htold hlast
    refine ⟨last, hlast, hshows, ?_, ?_⟩
    · simp [Token.Builtin.evaluate, sight, hsent, hany, hshows.1]
    · simp [Token.Builtin.evaluate, sight, hsent, hany, hshows.2]
  · rw [hsent]
    refine imp_congr_right fun hany => ?_
    obtain ⟨last, hlast⟩ := hlast hany
    have hshows := shows_last htold hlast
    unfold LastIsTaken
    rw [hlast]
    simp only [shows_iff hshows, Option.mem_some_iff, forall_eq']

/-- The application that starts twice has its second start refused. -/
theorem starts_refusing :
    (ofStatus.serve (.refusing 3) (.ofPath "/logs") .startingTwice 0).events.filterMap
      Event.start? = [(.starting 200, true), (.starting 500, false)] := rfl

/-- The record is built from the start that was refused. -/
theorem logged_response_shows_refusing :
    let served := ofStatus.serve (.refusing 3) (.ofPath "/logs") .startingTwice 0
    (Scope.ofPath "/logs").IsRequest ∧ ofStatus.immediate = false ∧
      ∃ request response, .buildAsked request response ∈ served.events ∧
        response.Shows (.starting 500) := by
  intro served
  have hscope : (Scope.ofPath "/logs").IsRequest := Scope.isRequest_ofPath _
  obtain ⟨request, response, hbuild⟩ :
      ∃ request response, .buildAsked request response ∈ served.events :=
    ⟨_, _, List.mem_of_getElem? (i := 5) rfl⟩
  obtain ⟨-, -, hshows, -⟩ := logged_response_shows hscope rfl hbuild ofStatus.now none
  rw [starts_refusing] at hshows
  obtain ⟨last, hlast, hshown, -⟩ := hshows rfl
  obtain rfl : (Message.starting 500, false) = last := Option.some.inj hlast
  exact ⟨hscope, rfl, request, response, hbuild, hshown⟩

/-- Headers count as sent, and what is shown is nothing that the server took. -/
theorem refused_start_is_shown :
    let served := ofStatus.serve (.refusing 3) (.ofPath "/logs") .startingTwice 0
    ∃ request response, .buildAsked request response ∈ served.events ∧
      response.headersSent.truth = true ∧
      (∀ m, (m, true) ∈ served.events.filterMap Event.start? → ¬ response.Shows m) ∧
      Token.Builtin.status.evaluate ⟨request, response, ofStatus.now⟩ none = .ok (.int 500) := by
  intro served
  refine ⟨_, _, List.mem_of_getElem? (i := 5) rfl, rfl, ?_, rfl⟩
  intro m hm hshows
  rw [starts_refusing] at hm
  obtain rfl : m = .starting 200 := by simpa using hm
  obtain ⟨hstatus, -⟩ := hshows
  have hint : (500 : Int) = 200 := Value.int.inj hstatus
  omega

end Logger

end RequestLog
