import RequestLog.Proofs.Build
import RequestLog.Proofs.Logger.Once

/-!
# What is marked of an exchange

The logger reads its clock when a request arrives and when its response starts, and never again.
`Marks` says how the start of a response is marked while events go by, and `flag` how the response
remembers that something has happened; both are carried through every message and every other event
of an application (`Watched.marks`, `Watched.flags`). So all that the skip predicate and the builder
are shown is told by the events before. The main statement is `shown_at_trigger`.
-/

namespace RequestLog

variable {ε Q R σ : Type}

namespace Event

/-- The reading, if the event is that the clock was read. -/
def reading? : Event Q ε → Option Int
  | clockRead reading => some reading
  | _ => none

/-- The request and the response that the skip predicate or the builder was shown, if the event is
that one of them was asked. -/
def shown? : Event Q ε → Option (Request × Response)
  | skipAsked request response | buildAsked request response => some (request, response)
  | _ => none

/-- Nothing between server and application reads the clock. -/
theorem reading?_eq_none_of_isExchange {e : Event Q ε} (h : e.isExchange) : e.reading? = none := by
  cases e <;> first | rfl | cases h

/-- Logging does not read the clock. -/
theorem reading?_eq_none_of_isLogging {e : Event Q ε} (h : e.isLogging) : e.reading? = none := by
  cases e <;> first | rfl | cases h

/-- What is not between server and application is no message that was taken. -/
theorem taken?_eq_none {e : Event Q ε} (h : e.isExchange = false) : e.taken? = none := by
  cases e <;> first | rfl | cases h

/-- What is no logging shows no response. -/
theorem shown?_eq_none {e : Event Q ε} (h : e.isLogging = false) : e.shown? = none := by
  cases e <;> first | rfl | cases h

/-- While a question is answered no message is taken. -/
theorem taken_asked (q : Q) (insides : List ε) :
    (asked q :: insides.map inside : List (Event Q ε)).filterMap taken? = [] := by
  refine List.filterMap_eq_nil_iff.mpr fun e he => ?_
  rcases List.mem_cons.mp he with rfl | he
  · rfl
  · obtain ⟨x, -, rfl⟩ := List.mem_map.mp he
    rfl

end Event

/-- A message that starts a response does not end it. -/
theorem Message.isLast_of_isStart {m : Message} (h : m.isStart = true) : m.isLast = false := by
  unfold isStart at h
  unfold isLast
  rw [beq_iff_eq.mp h]
  rfl

/-- What a flag is after something may have happened that raises it. -/
def flag (v : Value) (happened : Bool) : Value := if happened then .bool true else v

/-- A flag that is raised by either of two stretches is raised by both together. -/
theorem flag_or (v : Value) (before since : Bool) :
    flag v (before || since) = flag (flag v before) since := by
  cases before <;> cases since <;> rfl

/-- A flag that was down says whether it was raised. -/
theorem flag_false (happened : Bool) : flag (.bool false) happened = .bool happened := by
  cases happened <;> rfl

namespace Logger

/-! ### Flags -/

section Flags

variable {r r' : Response} {events : List (Event Q ε)} {result : Except Fault Unit}

/-- One message raises the flags that it has to, once the server has taken it. -/
theorem Forwarded.flags {m : Message} {outcome : Except Fault Unit}
    (h : Forwarded r m events r' outcome) :
    r'.headersSent = flag r.headersSent ((events.filterMap Event.taken?).any Message.isStart) ∧
      r'.finished = flag r.finished ((events.filterMap Event.taken?).any Message.isLast) := by
  cases h with
  | untyped => exact ⟨rfl, rfl⟩
  | first hm =>
      have hlast := Message.isLast_of_isStart hm
      cases outcome with
      | error f => exact ⟨rfl, rfl⟩
      | ok u => simp [Event.taken?, hm, hlast, flag, Response.sentWith, Except.isOk, Except.toBool,
          Response.captureStart, Response.markedAt]
  | again hm =>
      have hlast := Message.isLast_of_isStart hm
      cases outcome with
      | error f => exact ⟨rfl, rfl⟩
      | ok u => simp [Event.taken?, hm, hlast, flag, Response.sentWith, Except.isOk, Except.toBool,
          Response.captureStart]
  | other hm =>
      cases outcome with
      | error f => exact ⟨rfl, rfl⟩
      | ok u =>
          cases hlast : m.isLast <;>
            simp [Event.taken?, hm, hlast, flag, Except.isOk, Except.toBool]

/-- **Flags.**  At the end of a run the flags are raised by what the server took in it. -/
theorem Watched.flags {app : App Q R} (h : Watched app r events r' result) :
    r'.headersSent = flag r.headersSent ((events.filterMap Event.taken?).any Message.isStart) ∧
      r'.finished = flag r.finished ((events.filterMap Event.taken?).any Message.isLast) := by
  induction h with
  | done => exact ⟨rfl, rfl⟩
  | fail => exact ⟨rfl, rfl⟩
  | send hforward _ ih =>
      obtain ⟨hsent, hfinished⟩ := hforward.flags
      rw [List.filterMap_append, List.any_append, List.any_append, flag_or, flag_or, ← hsent,
        ← hfinished]
      exact ih
  | receive _ ih => exact ih
  | ask _ ih =>
      rw [List.filterMap_append, Event.taken_asked, List.nil_append]
      exact ih

end Flags

/-! ### Marks -/

/-- How the start of a response is marked while events go by. A mark stays as it is, and the clock
is not read again. Without a mark the clock is read once, right before the server is given the first
message that starts the response, whether or not it takes it. -/
inductive Marks : Option Int → List (Event Q ε) → Option Int → Prop
  | kept {n : Int} {events : List (Event Q ε)} (h : ∀ e ∈ events, e.reading? = none) :
      Marks (some n) events (some n)
  | never {events : List (Event Q ε)} (h : ∀ e ∈ events, e.reading? = none ∧ e.start? = none) :
      Marks none events none
  | first {n : Int} {m : Message} {outcome : Except Fault Unit} {front back : List (Event Q ε)}
      (hfront : ∀ e ∈ front, e.reading? = none ∧ e.start? = none) (hm : m.isStart = true)
      (hback : ∀ e ∈ back, e.reading? = none) :
      Marks none (front ++ .clockRead n :: .sent m outcome :: back) (some n)

namespace Marks

variable {a b c : Option Int} {events later : List (Event Q ε)}

/-- Where the clock is not read and nothing is started, no mark is made. -/
theorem quiet (h : ∀ e ∈ events, e.reading? = none ∧ e.start? = none) (a : Option Int) :
    Marks a events a := by
  cases a with
  | none => exact .never h
  | some n => exact .kept fun e he => (h e he).1

/-- The first message that starts the response is marked at once. -/
theorem mark (n : Int) {m : Message} (hm : m.isStart = true) (outcome : Except Fault Unit) :
    Marks none [(.clockRead n : Event Q ε), .sent m outcome] (some n) :=
  first (List.forall_mem_nil _) hm (List.forall_mem_nil _)

/-- Marks along two stretches are marks along both together. -/
theorem append (h : Marks a events b) (h' : Marks b later c) : Marks a (events ++ later) c := by
  cases h with
  | kept h =>
      cases h' with
      | kept h' => exact .kept (List.forall_mem_append.mpr ⟨h, h'⟩)
  | never h =>
      cases h' with
      | never h' => exact .never (List.forall_mem_append.mpr ⟨h, h'⟩)
      | first hfront hm hback =>
          rw [← List.append_assoc]
          exact .first (List.forall_mem_append.mpr ⟨h, hfront⟩) hm hback
  | first hfront hm hback =>
      cases h' with
      | kept h' =>
          rw [List.append_assoc, List.cons_append, List.cons_append]
          exact .first hfront hm (List.forall_mem_append.mpr ⟨hback, h'⟩)

/-- The clock is read for the mark alone. -/
theorem readings (h : Marks none events b) : events.filterMap Event.reading? = b.toList := by
  have hnone : ∀ {part : List (Event Q ε)}, (∀ e ∈ part, e.reading? = none) →
      part.filterMap Event.reading? = [] := fun hpart => List.filterMap_eq_nil_iff.mpr hpart
  cases h with
  | never h => exact hnone fun e he => (h e he).1
  | first hfront hm hback =>
      rw [List.filterMap_append, hnone fun e he => (hfront e he).1]
      simp [List.filterMap_cons, Event.reading?, hnone hback]

/-- There is a mark exactly if a start was tried. -/
theorem isSome_iff (h : Marks none events b) :
    b.isSome ↔ events.filterMap Event.start? ≠ [] := by
  cases h with
  | never h =>
      have hnone : events.filterMap Event.start? = [] :=
        List.filterMap_eq_nil_iff.mpr fun e he => (h e he).2
      simp [hnone]
  | first hfront hm hback => simp [List.filterMap_cons, Event.start?, hm]

end Marks

section Watching

variable {r r' : Response} {events : List (Event Q ε)} {result : Except Fault Unit}

/-- Whether the headers were sent makes no difference to the mark. -/
theorem started_sentWith (r : Response) (outcome : Except Fault Unit) :
    (r.sentWith outcome).started = r.started := by
  unfold Response.sentWith
  split <;> rfl

/-- One message makes a mark if it is the first that starts the response. -/
theorem Forwarded.marks {m : Message} {outcome : Except Fault Unit}
    (h : Forwarded r m events r' outcome) : Marks r.started events r'.started := by
  cases h with
  | untyped => exact .quiet (List.forall_mem_nil _) _
  | first hm hr =>
      rw [started_sentWith, hr]
      exact .mark _ hm _
  | again hm hr =>
      rw [started_sentWith]
      show Marks r.started _ r.started
      rw [hr]
      exact .kept (by simp [Event.reading?])
  | other hm =>
      have hstarted : (if outcome.isOk && m.isLast then { r with finished := .bool true }
          else r).started = r.started := by
        split <;> rfl
      rw [hstarted]
      exact .quiet (by simp [Event.reading?, Event.start?, hm]) _

/-- **Marks.**  While an application is watched the clock is read for its first start alone. -/
theorem Watched.marks {app : App Q R} (h : Watched app r events r' result) :
    Marks r.started events r'.started := by
  induction h with
  | done => exact .quiet (List.forall_mem_nil _) _
  | fail => exact .quiet (List.forall_mem_nil _) _
  | send hforward _ ih => exact hforward.marks.append ih
  | @receive next r r' outcome rest result _ ih =>
      have hreceived : Marks r.started [(.received outcome : Event Q ε)] r.started :=
        .quiet (by simp [Event.reading?, Event.start?]) _
      exact hreceived.append ih
  | @ask q next r r' outcome insides rest result _ ih =>
      have hasked : Marks r.started (.asked q :: insides.map .inside : List (Event Q ε))
          r.started := by
        refine .quiet (fun e he => ⟨?_, ?_⟩) _
        · exact Event.reading?_eq_none_of_isExchange (Event.isExchange_asked q insides e he)
        · exact List.filterMap_eq_nil_iff.mp (Event.starts_asked q insides) e he
      exact hasked.append ih

end Watching

/-! ### What is shown -/

section Shown

variable {l : Logger σ} {request : Request} {response : Response} {s : σ}
  {events : List (Event Q ε)} {d? : Option Document} {f? : Option Fault}

/-- In a course nothing is shown but its own request and response. -/
theorem Course.shown (h : l.Course request response s events d? f?) :
    ∀ p ∈ events.filterMap Event.shown?, p = (request, response) := by
  have hopening : ∀ (lines : List LogLine) (rest : List (Event Q ε)),
      rest.filterMap Event.shown? = [] →
        ∀ p ∈ (l.opening request response lines ++ rest).filterMap Event.shown?,
          p = (request, response) := by
    intro lines rest hrest
    have hlines : (lines.map .logged : List (Event Q ε)).filterMap Event.shown? = [] := by
      simp [Event.shown?]
    rw [List.filterMap_append, hrest, List.append_nil]
    unfold opening skipAsked
    split <;> simp [Event.shown?, hlines]
  have hreport : ∀ f : Fault, (report f : List (Event Q ε)).filterMap Event.shown? = [] := by
    intro f
    simp [report, Event.shown?]
  cases h with
  | skipFailed => simp [Event.shown?, hreport]
  | skipped => simp [List.filterMap_cons, Event.shown?]
  | _ => exact hopening _ _ (by simp [List.filterMap_cons, Event.shown?, hreport])

/-- In every course the skip predicate or the builder is asked. -/
theorem Course.shown_ne_nil (h : l.Course request response s events d? f?) :
    events.filterMap Event.shown? ≠ [] := by
  cases h with
  | skipFailed => simp [Event.shown?]
  | skipped => simp [Event.shown?]
  | _ => simp [opening, List.filterMap_cons, Event.shown?]

/-- Only the logging shows anything. -/
theorem shown_filter (events : List (Event Q ε)) :
    (events.filter Event.isLogging).filterMap Event.shown? = events.filterMap Event.shown? :=
  Event.filterMap_filter (fun _ he => Event.shown?_eq_none he) events

end Shown

/-- A response is not timed exactly if its start was not marked. -/
theorem responseTime_eq_absent_iff {request : Request} {response : Response} {digits : Value}
    (h : request.started.isSome) :
    Timing.responseTime request response digits = .ok .absent ↔ response.started = none := by
  obtain ⟨a, ha⟩ := Option.isSome_iff_exists.mp h
  unfold Timing.responseTime
  rw [ha]
  cases response.started with
  | none => simp
  | some b =>
      refine iff_of_false (fun htime => ?_) nofun
      obtain ⟨x, -, hround⟩ := ok_of_bind htime
      unfold Timing.round at hround
      split at hround
      · cases hround
      · obtain ⟨n, -, hplaces⟩ := ok_of_bind hround
        split at hplaces <;> cases hplaces

/-! ### Serving -/

/-- What is known when an exchange is logged at its end: whether the server took a start, and
whether it took a last part of the body, among all messages that there are. The clock was read when
the request arrived, and for the first start that was tried, before the server was given it; nothing
of the application comes after that, and no further reading. So the response is timed if a start
was tried. -/
structure AtEnd (request : Request) (response : Response) (events : List (Event Q ε)) : Prop where
  headersSent : response.headersSent =
    .bool ((events.filterMap Event.taken?).any Message.isStart)
  finished : response.finished = .bool ((events.filterMap Event.taken?).any Message.isLast)
  started_iff : response.started.isSome ↔ events.filterMap Event.start? ≠ []
  marked : ∃ arrival watched logged, events = .clockRead arrival :: watched ++ logged ∧
    request.started = some arrival ∧ Marks none watched response.started ∧
    (∀ e ∈ watched, e.isLogging = false) ∧ ∀ e ∈ logged, e.isLogging
  untimed_iff : ∀ digits, Timing.responseTime request response digits = .ok .absent ↔
    events.filterMap Event.start? = []

/-- What is known when an exchange is logged at its arrival: the clock was read twice, and nothing
has happened yet. -/
structure AtArrival (request : Request) (response : Response) (events : List (Event Q ε)) :
    Prop where
  marked : ∃ arrival reading logged exchanged,
    events = .clockRead arrival :: .clockRead reading :: (logged ++ exchanged) ∧
    request.started = some arrival ∧ response = ({} : Response).markedAt reading ∧
    (∀ e ∈ logged, e.isLogging) ∧ ∀ e ∈ exchanged, e.isExchange

section Serving

variable {l : Logger σ} {w : Surroundings ε Q R σ} {scope : Scope} {request : Request}
  {response : Response} {s s₁ : σ} {app : App Q R}

/-- A request that is logged at the end shows what happened until then. -/
theorem Finish.atEnd {watched logged : List (Event Q ε)} {d? : Option Document} {f? : Option Fault}
    (h : l.Finish w scope app s request response s₁ watched logged d? f?) :
    AtEnd request response (l.serve w scope app s).events := by
  obtain ⟨result, hwatched⟩ := h.run
  obtain ⟨arrived, -, harrived⟩ := h.at_end.exists_request
  have hstarted : request.started = some (l.clock s).1 := by rw [harrived]; rfl
  have hmarks : Marks none watched response.started := hwatched.marks
  obtain ⟨hsent, hfinished⟩ := hwatched.flags
  have htaken : (l.serve w scope app s).events.filterMap Event.taken? =
      watched.filterMap Event.taken? := by
    have hlogged : logged.filterMap Event.taken? = [] :=
      List.filterMap_eq_nil_iff.mpr fun e he => Event.taken?_eq_none (h.course.not_isExchange e he)
    rw [h.events_eq, List.filterMap_append, hlogged, List.append_nil]
    rfl
  have hstarts : (l.serve w scope app s).events.filterMap Event.start? =
      watched.filterMap Event.start? := by
    rw [h.events_eq, List.filterMap_append, Event.starts_eq_nil h.course.not_isExchange,
      List.append_nil]
    rfl
  constructor
  · rw [hsent, htaken]
    exact flag_false _
  · rw [hfinished, htaken]
    exact flag_false _
  · rw [hstarts]
    exact hmarks.isSome_iff
  · exact ⟨_, watched, logged, h.events_eq, hstarted, hmarks, hwatched.not_isLogging,
      h.course.isLogging⟩
  · intro digits
    rw [responseTime_eq_absent_iff (by rw [hstarted]; rfl), hstarts,
      ← Option.not_isSome_iff_eq_none, hmarks.isSome_iff, ne_eq, Classical.not_not]

/-- The readings of the clock at the end are the two marks. -/
theorem AtEnd.readings {events : List (Event Q ε)} (h : AtEnd request response events) :
    events.filterMap Event.reading? = request.started.toList ++ response.started.toList := by
  obtain ⟨arrival, watched, logged, rfl, hstarted, hmarks, -, hlogged⟩ := h.marked
  have hquiet : logged.filterMap Event.reading? = [] :=
    List.filterMap_eq_nil_iff.mpr fun e he => Event.reading?_eq_none_of_isLogging (hlogged e he)
  rw [hstarted, List.filterMap_append, hquiet, List.append_nil]
  simp [Event.reading?, hmarks.readings]

/-- The readings of the clock at the arrival are the two marks. -/
theorem AtArrival.readings {events : List (Event Q ε)} (h : AtArrival request response events) :
    events.filterMap Event.reading? = request.started.toList ++ response.started.toList := by
  obtain ⟨arrival, reading, logged, exchanged, rfl, hstarted, rfl, hlogged, hexchanged⟩ := h.marked
  have hquiet : (logged ++ exchanged).filterMap Event.reading? = [] := by
    refine List.filterMap_eq_nil_iff.mpr (List.forall_mem_append.mpr ⟨?_, ?_⟩)
    · exact fun e he => Event.reading?_eq_none_of_isLogging (hlogged e he)
    · exact fun e he => Event.reading?_eq_none_of_isExchange (hexchanged e he)
  rw [hstarted]
  simp only [List.filterMap_cons, Event.reading?, hquiet]
  rfl

/-- A clock that does not go back between two readings leaves no negative time between them. -/
theorem elapsed_nonneg {readings : List Int} {a b : Int}
    (hclock : readings.Pairwise (· ≤ ·)) (h : readings = [a] ++ [b]) : 0 ≤ b - a := by
  subst h
  have hle : a ≤ b := by simpa using hclock
  omega

/-- At its arrival an exchange is logged with two readings of the clock and nothing else. -/
theorem exists_arrival (h : scope.IsRequest) (hi : l.immediate = true) (w : Surroundings ε Q R σ)
    (app : App Q R) (s : σ) :
    ∃ request response s₁ d? f?, AtArrival request response (l.serve w scope app s).events ∧
      l.Course request response s₁ ((l.serve w scope app s).events.filter Event.isLogging)
        d? f? := by
  obtain ⟨arrived, hr, -⟩ := Request.ofScope_ok h l.trustProxy
  obtain ⟨d, f, hcourse, -⟩ := course_logRequest (ε := ε) (Q := Q) l
    (arrived.markedAt (l.clock s).1) (({} : Response).markedAt (l.clock (l.clock s).2).1)
    (l.clock (l.clock s).2).2
  obtain ⟨exchanged, hevents, hexchanged⟩ := events_arrival (w := w) h.kind hi hr app s
  refine ⟨_, _, (l.clock (l.clock s).2).2, d, f, ?_,
    (logging_arrival h.kind hi hr app s).2 ▸ hcourse⟩
  exact ⟨_, _, _, _, hevents, rfl, rfl, isLogging_logRequest l _ _ _, hexchanged⟩

/-- **What is shown of an exchange.**  The skip predicate and the builder are shown the same request
and response. When they are asked at the end, the response tells whether a start and a last part
were taken, and is marked exactly if a start was tried; at the arrival nothing is known but two
marks. In both modes the readings of the clock are these marks, in order, and there is no other
reading; so no negative time is between them unless the clock goes back. -/
theorem shown_at_trigger (l : Logger σ) (w : Surroundings ε Q R σ) (h : scope.IsRequest)
    (app : App Q R) (s : σ) :
    let events := (l.serve w scope app s).events
    ∃ request response, events.filterMap Event.shown? ≠ [] ∧
      (∀ p ∈ events.filterMap Event.shown?, p = (request, response)) ∧
      (l.immediate = false → AtEnd request response events) ∧
      (l.immediate = true → AtArrival request response events) ∧
      events.filterMap Event.reading? = request.started.toList ++ response.started.toList ∧
      ((events.filterMap Event.reading?).Pairwise (· ≤ ·) →
        ∀ a ∈ request.started, ∀ b ∈ response.started, 0 ≤ b - a) := by
  intro events
  have hnonneg : ∀ {request : Request} {response : Response},
      events.filterMap Event.reading? = request.started.toList ++ response.started.toList →
      (events.filterMap Event.reading?).Pairwise (· ≤ ·) →
        ∀ a ∈ request.started, ∀ b ∈ response.started, 0 ≤ b - a := by
    intro request response hreadings hclock a ha b hb
    rw [Option.mem_def.mp ha, Option.mem_def.mp hb] at hreadings
    exact elapsed_nonneg hclock hreadings
  cases hi : l.immediate with
  | true =>
      obtain ⟨request, response, s₁, d, f, harrival, hcourse⟩ := exists_arrival h hi w app s
      refine ⟨request, response, ?_, ?_, nofun, fun _ => harrival, harrival.readings,
        hnonneg harrival.readings⟩
      · rw [← shown_filter]
        exact hcourse.shown_ne_nil
      · rw [← shown_filter]
        exact hcourse.shown
  | false =>
      obtain ⟨request, response, s₁, watched, logged, d, f, hfinish⟩ :=
        exists_finish h hi w app s
      refine ⟨request, response, ?_, ?_, fun _ => hfinish.atEnd, nofun, hfinish.atEnd.readings,
        hnonneg hfinish.atEnd.readings⟩
      · rw [← shown_filter, hfinish.filter_isLogging]
        exact hfinish.course.shown_ne_nil
      · rw [← shown_filter, hfinish.filter_isLogging]
        exact hfinish.course.shown

/-- An application whose second start is refused: the headers are sent, the response is finished,
and the clock has been read for the first start alone, not before the arrival. -/
theorem shown_at_trigger_refusing :
    let events := (ofStatus.serve (.refusing 3) (.ofPath "/logs") .startingTwice 0).events
    (Scope.ofPath "/logs").IsRequest ∧ (events.filterMap Event.reading?).Pairwise (· ≤ ·) ∧
      ∃ request response, (request, response) ∈ events.filterMap Event.shown? ∧
        AtEnd request response events ∧ response.headersSent = .bool true ∧
        response.finished = .bool true ∧ response.started.isSome ∧
        (∀ a ∈ request.started, ∀ b ∈ response.started, 0 ≤ b - a) ∧
        request.started.toList ++ response.started.toList = [0, 1] := by
  intro events
  have hscope : (Scope.ofPath "/logs").IsRequest := Scope.isRequest_ofPath _
  have hread : events.filterMap Event.reading? = [0, 1] := rfl
  have hclock : (events.filterMap Event.reading?).Pairwise (· ≤ ·) := by
    rw [hread]
    decide
  obtain ⟨request, response, hne, hshown, hend, -, hreadings, hnonneg⟩ :=
    shown_at_trigger ofStatus (.refusing 3) hscope .startingTwice 0
  obtain ⟨p, hp⟩ := List.exists_mem_of_ne_nil _ hne
  have hend := hend rfl
  refine ⟨hscope, hclock, request, response, hshown p hp ▸ hp, hend, hend.headersSent,
    hend.finished, ?_, hnonneg hclock, hreadings.symm.trans hread⟩
  exact hend.started_iff.mpr (List.cons_ne_nil _ _)

end Serving

end Logger

end RequestLog
