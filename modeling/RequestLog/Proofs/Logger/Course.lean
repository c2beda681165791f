import RequestLog.Proofs.Logger.Steps
import RequestLog.Proofs.Value
import RequestLog.Proofs.Wording

/-!
# Courses of logging

What happens when one exchange is logged, in all the ways in which it can go (`Logger.Course`,
`course_logRequest`): the skip predicate may fail or leave the exchange out, the builder may fail,
give something that cannot be read or shown or nothing that carries a value, and the sink may fail
or take the document. From the courses it follows when a document is submitted
(`Course.submits_iff`) and when something fails (`Course.fails_iff`). A fault that has a wording
does not leave the logging (`logRequest_ok`).
-/

namespace RequestLog

variable {ε Q R σ : Type}

/-! ### What carries a value -/

/-- The builder gave a record, or something that can be read, with an entry that is not absent. -/
inductive Built.Carries : Built → Prop
  | record {r : Record} {key : String} {v : Value} (h : (key, v) ∈ r.fields.entries)
      (hv : v ≠ .absent) : Carries (.record r)
  | value {given : Value} {d : Document} {key v : Value} (hd : documentOf given = .ok d)
      (h : (key, v) ∈ d) (hv : v ≠ .absent) : Carries (.value given)
  | object {o : Readings} {pairs : List (Value × Value)} {key v : Value}
      (hfirst : o.first = .ok pairs) (h : (key, v) ∈ Document.ofPairs pairs) (hv : v ≠ .absent) :
      Carries (.object o)

namespace Built

/-- An object is tested for absence as it is read first. -/
theorem isAbsent_object (o : Readings) :
    (Built.object o).isAbsent =
      o.first.map fun pairs => (Document.ofPairs pairs).all fun e => e.2.isAbsent := by
  cases h : o.first <;> simp [isAbsent, h, Except.map, bind, Except.bind, pure, Except.pure]

theorem isAbsent_record (r : Record) :
    (Built.record r).isAbsent = .ok (r.fields.entries.all fun e => e.2.isAbsent) := by
  simp only [isAbsent, Record.isAbsent, Record.values, List.all_map]
  rfl

/-- A value that is there is read as a document. -/
theorem isAbsent_value {v : Value} (h : v ≠ .absent) :
    (Built.value v).isAbsent = (documentOf v).map fun d => d.all fun e => e.2.isAbsent := by
  cases v with
  | absent => exact absurd rfl h
  | _ =>
      simp only [isAbsent, bind, Except.bind, pure, Except.pure]
      split <;> simp_all [Except.map]

/-- The test for absence finds exactly what carries a value. -/
theorem isAbsent_eq_false_iff {b : Built} : b.isAbsent = .ok false ↔ b.Carries := by
  cases b with
  | record r =>
      rw [isAbsent_record, Except.ok.injEq, Value.all_isAbsent_eq_false_iff]
      constructor
      · intro h
        obtain ⟨key, v, hentry, hv⟩ := h
        exact .record hentry hv
      · intro h
        obtain ⟨hentry, hv⟩ := h
        exact ⟨_, _, hentry, hv⟩
  | value v =>
      by_cases hv : v = .absent
      · subst hv
        refine iff_of_false nofun fun h => ?_
        obtain _ | ⟨hd, -, -⟩ := h
        cases hd
      · rw [isAbsent_value hv]
        constructor
        · intro h
          cases hd : documentOf v with
          | error f => simp [hd, Except.map] at h
          | ok d =>
              rw [hd] at h
              obtain ⟨key, w, hentry, hw⟩ :=
                Value.all_isAbsent_eq_false_iff.mp (Except.ok.inj h)
              exact .value hd hentry hw
        · intro h
          obtain _ | ⟨hd, hentry, hw⟩ := h
          rw [hd]
          exact congrArg Except.ok (Value.all_isAbsent_eq_false_iff.mpr ⟨_, _, hentry, hw⟩)
  | object o =>
      rw [isAbsent_object]
      constructor
      · intro h
        cases hfirst : o.first with
        | error f => simp [hfirst, Except.map] at h
        | ok pairs =>
            rw [hfirst] at h
            obtain ⟨key, v, hentry, hv⟩ :=
              Value.all_isAbsent_eq_false_iff.mp (Except.ok.inj h)
            exact .object hfirst hentry hv
      · intro h
        obtain _ | _ | ⟨hfirst, hentry, hv⟩ := h
        rw [hfirst]
        exact congrArg Except.ok (Value.all_isAbsent_eq_false_iff.mpr ⟨_, _, hentry, hv⟩)

end Built

/-! ### The courses -/

/-- The line at the level of errors that was written to the log, if the event is that one was. -/
def Event.error? (e : Event Q ε) : Option LogLine := e.line?.filter (·.level = .error)

namespace Logger

variable (l : Logger σ)

/-- The line that shows what is submitted. -/
def shownLine (literal : String) : LogLine := ⟨.debug, .requests, "log request " ++ literal⟩

/-- What is noted before a record is built or an exchange left out. -/
def skipAsked (request : Request) (response : Response) : List (Event Q ε) :=
  if l.skip.isSome then [.skipAsked request response] else []

/-- The state in which the record of an exchange is built, if no skip predicate leaves the exchange
out or fails. -/
def admission (request : Request) (response : Response) (s : σ) : Option σ :=
  match l.skip with
  | none => some s
  | some p =>
    match p request response s with
    | (.ok v, s') => if v.truth then none else some s'
    | (.error _, _) => none

/-- What the builder does for an exchange. -/
def building (request : Request) (response : Response) (s : σ) : Outcome LogLine σ Built :=
  l.build ⟨request, response, l.now⟩ s

/-- What is noted until a record has been built. -/
def opening (request : Request) (response : Response) (lines : List LogLine) :
    List (Event Q ε) :=
  l.skipAsked request response ++ .buildAsked request response :: lines.map .logged

/-- The courses that the logging of an exchange can take: the events that it notes, the document
that it submits and the fault that it reports, if any. -/
inductive Course (request : Request) (response : Response) (s : σ) :
    List (Event Q ε) → Option Document → Option Fault → Prop
  | skipFailed {p : Request → Response → Step σ Value} {f : Fault} {s' : σ}
      (hp : l.skip = some p) (ha : p request response s = (.error f, s')) :
      Course request response s (.skipAsked request response :: report f) none (some f)
  | skipped {p : Request → Response → Step σ Value} {v : Value} {s' : σ}
      (hp : l.skip = some p) (ha : p request response s = (.ok v, s')) (hv : v.truth = true) :
      Course request response s
        [.skipAsked request response, .logged ⟨.debug, .requests, "skip request"⟩] none none
  | buildFailed {s₁ : σ} {f : Fault}
      (ha : l.admission request response s = some s₁)
      (hb : (l.building request response s₁).result = .error f) :
      Course request response s
        (l.opening request response (l.building request response s₁).events ++ report f)
        none (some f)
  | unreadable {s₁ : σ} {b : Built} {f : Fault}
      (ha : l.admission request response s = some s₁)
      (hb : (l.building request response s₁).result = .ok b) (hr : b.isAbsent = .error f) :
      Course request response s
        (l.opening request response (l.building request response s₁).events ++ report f)
        none (some f)
  | absent {s₁ : σ} {b : Built}
      (ha : l.admission request response s = some s₁)
      (hb : (l.building request response s₁).result = .ok b) (hr : b.isAbsent = .ok true) :
      Course request response s
        (l.opening request response (l.building request response s₁).events ++
          [.logged ⟨.debug, .requests, "skip line"⟩]) none none
  | unshown {s₁ : σ} {b : Built} {f : Fault}
      (ha : l.admission request response s = some s₁)
      (hb : (l.building request response s₁).result = .ok b) (hr : b.isAbsent = .ok false)
      (hl : b.literal = .error f) :
      Course request response s
        (l.opening request response (l.building request response s₁).events ++ report f)
        none (some f)
  | undocumented {s₁ : σ} {b : Built} {literal : String} {f : Fault}
      (ha : l.admission request response s = some s₁)
      (hb : (l.building request response s₁).result = .ok b) (hr : b.isAbsent = .ok false)
      (hl : b.literal = .ok literal) (hd : b.document l.omitAbsent = .error f) :
      Course request response s
        (l.opening request response (l.building request response s₁).events ++
          .logged (shownLine literal) :: report f) none (some f)
  | submitFailed {s₁ : σ} {b : Built} {literal : String} {d : Document} {f : Fault}
      (ha : l.admission request response s = some s₁)
      (hb : (l.building request response s₁).result = .ok b) (hr : b.isAbsent = .ok false)
      (hl : b.literal = .ok literal) (hd : b.document l.omitAbsent = .ok d)
      (hs : (l.submit [d] (l.building request response s₁).state).1 = .error f) :
      Course request response s
        (l.opening request response (l.building request response s₁).events ++
          .logged (shownLine literal) :: .submitted [d] :: report f) (some d) (some f)
  | submitted {s₁ : σ} {b : Built} {literal : String} {d : Document}
      (ha : l.admission request response s = some s₁)
      (hb : (l.building request response s₁).result = .ok b) (hr : b.isAbsent = .ok false)
      (hl : b.literal = .ok literal) (hd : b.document l.omitAbsent = .ok d)
      (hs : (l.submit [d] (l.building request response s₁).state).1 = .ok ()) :
      Course request response s
        (l.opening request response (l.building request response s₁).events ++
          [.logged (shownLine literal), .submitted [d]]) (some d) none

/-! ### Every exchange takes one -/

variable {l} {request : Request} {response : Response} {s : σ}

/-- The skip predicate fails, leaves the exchange out, or lets it be built. -/
theorem isSkipped_cases (l : Logger σ) (request : Request) (response : Response) (s : σ) :
    (∃ p f s', l.skip = some p ∧ p request response s = (.error f, s') ∧
      (l.isSkipped request response : Act (Event Q ε) σ Bool) s =
        ⟨[.skipAsked request response], .error f, s'⟩) ∨
    (∃ p v s', l.skip = some p ∧ p request response s = (.ok v, s') ∧ v.truth = true ∧
      (l.isSkipped request response : Act (Event Q ε) σ Bool) s =
        ⟨[.skipAsked request response], .ok true, s'⟩) ∨
    (∃ s', l.admission request response s = some s' ∧
      (l.isSkipped request response : Act (Event Q ε) σ Bool) s =
        ⟨l.skipAsked request response, .ok false, s'⟩) := by
  unfold isSkipped admission skipAsked
  cases hp : l.skip with
  | none => exact .inr (.inr ⟨s, rfl, rfl⟩)
  | some p =>
      dsimp only
      rcases ha : p request response s with ⟨f | v, s'⟩
      · refine .inl ⟨p, f, s', rfl, ha, ?_⟩
        simp [Act.bind_apply, Outcome.after, ha]
      · cases hv : v.truth with
        | true =>
            refine .inr (.inl ⟨p, v, s', rfl, ha, hv, ?_⟩)
            simp [Act.bind_apply, Outcome.after, ha, hv]
        | false =>
            refine .inr (.inr ⟨s', by simp [hv], ?_⟩)
            simp [Act.bind_apply, Outcome.after, ha, hv]

theorem builtRecord_apply :
    (l.builtRecord request response : Act (Event Q ε) σ Built) s =
      ⟨.buildAsked request response :: (l.building request response s).events.map .logged,
        (l.building request response s).result, (l.building request response s).state⟩ := rfl

/-- What cannot be shown is not submitted. -/
theorem submitRecord_unshown {b : Built} {f : Fault} (hl : b.literal = .error f) :
    (l.submitRecord b : Act (Event Q ε) σ Unit) s = ⟨[], .error f, s⟩ := by
  unfold submitRecord
  rw [hl]
  rfl

/-- What cannot be read once more is shown in the log and not submitted. -/
theorem submitRecord_undocumented {b : Built} {literal : String} {f : Fault}
    (hl : b.literal = .ok literal) (hd : b.document l.omitAbsent = .error f) :
    (l.submitRecord b : Act (Event Q ε) σ Unit) s =
      ⟨[.logged (shownLine literal)], .error f, s⟩ := by
  unfold submitRecord
  rw [hl, hd]
  rfl

/-- What can be shown and read once more is shown in the log and submitted. -/
theorem submitRecord_apply {b : Built} {literal : String} {d : Document}
    (hl : b.literal = .ok literal) (hd : b.document l.omitAbsent = .ok d) :
    (l.submitRecord b : Act (Event Q ε) σ Unit) s =
      ⟨[.logged (shownLine literal), .submitted [d]], (l.submit [d] s).1, (l.submit [d] s).2⟩ := by
  unfold submitRecord
  rw [hl, hd]
  rfl

/-- With what was noted before it, and with the report of the fault with which it ends, if it does,
the act completes a course. -/
def Completes (l : Logger σ) (request : Request) (response : Response) (s : σ) {α : Type}
    (before : List (Event Q ε)) (o : Outcome (Event Q ε) σ α) : Prop :=
  match o.result with
  | .error f => ∃ d?, l.Course request response s (before ++ o.events ++ report f) d? (some f)
  | .ok _ => ∃ d?, l.Course request response s (before ++ o.events) d? none

/-- Submitting what was built completes a course. -/
theorem completes_submitRecord {s₁ : σ} {b : Built} (ha : l.admission request response s = some s₁)
    (hb : (l.building request response s₁).result = .ok b) (hr : b.isAbsent = .ok false) :
    l.Completes (Q := Q) (ε := ε) request response s
      (l.opening request response (l.building request response s₁).events)
      (l.submitRecord b (l.building request response s₁).state) := by
  cases hl : b.literal with
  | error f =>
      rw [submitRecord_unshown hl]
      exact ⟨none, by simpa using Course.unshown ha hb hr hl⟩
  | ok literal =>
      cases hd : b.document l.omitAbsent with
      | error f =>
          rw [submitRecord_undocumented hl hd]
          exact ⟨none, by simpa using Course.undocumented ha hb hr hl hd⟩
      | ok d =>
          rw [submitRecord_apply hl hd, Completes]
          cases hs : (l.submit [d] (l.building request response s₁).state).1 with
          | error f => exact ⟨some d, by simpa using Course.submitFailed ha hb hr hl hd hs⟩
          | ok u => exact ⟨some d, Course.submitted ha hb hr hl hd hs⟩

/-- Logging an exchange up to the report of a fault completes one of the courses. -/
theorem completes_logExchange (l : Logger σ) (request : Request) (response : Response) (s : σ) :
    l.Completes (Q := Q) (ε := ε) request response s [] (l.logExchange request response s) := by
  unfold logExchange
  rcases isSkipped_cases (ε := ε) (Q := Q) l request response s with
    ⟨p, f, s', hp, ha, hasked⟩ | ⟨p, v, s', hp, ha, hv, hasked⟩ | ⟨s₁, ha, hasked⟩
  · rw [Act.bind_of_error hasked]
    exact ⟨none, .skipFailed hp ha⟩
  · rw [Act.bind_of_ok hasked]
    exact ⟨none, .skipped hp ha hv⟩
  · rw [Act.bind_of_ok hasked]
    simp only [Bool.false_eq_true, if_false]
    cases hb : (l.building request response s₁).result with
    | error f =>
        rw [Act.bind_of_error (builtRecord_apply.trans (by rw [hb]))]
        exact ⟨none, .buildFailed ha hb⟩
    | ok b =>
        rw [Act.bind_of_ok (builtRecord_apply.trans (by rw [hb]))]
        cases hr : b.isAbsent with
        | error f =>
            exact ⟨none, by simpa [Act.bind_apply, opening] using Course.unreadable ha hb hr⟩
        | ok isAbsent =>
            rw [Act.ofExcept_ok_bind]
            cases isAbsent with
            | true =>
                exact ⟨none, by simpa [Act.bind_apply, opening, log] using Course.absent ha hb hr⟩
            | false =>
                have hsubmit := completes_submitRecord (ε := ε) (Q := Q) ha hb hr
                simp only [Bool.false_eq_true, if_false]
                rw [Act.bind_pure_apply]
                unfold Completes at hsubmit ⊢
                cases hs : ((l.submitRecord b : Act (Event Q ε) σ Unit)
                    (l.building request response s₁).state).result with
                | error f =>
                    rw [hs] at hsubmit
                    obtain ⟨d?, hcourse⟩ := hsubmit
                    exact ⟨d?, by simpa [opening] using hcourse⟩
                | ok u =>
                    rw [hs] at hsubmit
                    obtain ⟨d?, hcourse⟩ := hsubmit
                    exact ⟨d?, by simpa [opening] using hcourse⟩

/-- Logging an exchange takes one of the courses, and a fault is left exactly if the one that is
reported has no wording. -/
theorem course_logRequest (l : Logger σ) (request : Request) (response : Response) (s : σ) :
    ∃ d? f?, l.Course request response s
        ((l.logRequest request response : Act (Event Q ε) σ (Option Built)) s).events d? f? ∧
      ∀ g, ((l.logRequest request response : Act (Event Q ε) σ (Option Built)) s).result =
        .error g ↔ ∃ f, f? = some f ∧ f.message = .error g := by
  have hexchange := completes_logExchange (ε := ε) (Q := Q) l request response s
  rw [logRequest_apply]
  simp only [settled_eq_error_iff]
  unfold Completes at hexchange
  cases hresult :
      ((l.logExchange request response : Act (Event Q ε) σ (Option Built)) s).result with
  | error f =>
      rw [hresult] at hexchange
      obtain ⟨d?, hcourse⟩ := hexchange
      exact ⟨d?, some f, hcourse, fun g => by simp⟩
  | ok b =>
      rw [hresult] at hexchange
      obtain ⟨d?, hcourse⟩ := hexchange
      refine ⟨d?, none, ?_, fun g => by simp⟩
      simpa using hcourse

/-! ### What follows from the course -/

/-- The document `d` is submitted for the exchange: nothing leaves the exchange out, and the builder
gives what carries a value, can be shown in the log, and has the document `d` when it is read once
more. -/
def Submits (l : Logger σ) (request : Request) (response : Response) (s : σ) (d : Document) :
    Prop :=
  ∃ s₁ b, l.admission request response s = some s₁ ∧
    (l.building request response s₁).result = .ok b ∧ b.Carries ∧
    (∃ literal, b.literal = .ok literal) ∧ b.document l.omitAbsent = .ok d

/-- Logging the exchange fails: in the skip predicate, in the builder, in reading what the builder
gave, in showing it or in reading it once more, or in the sink. -/
inductive Fails (l : Logger σ) (request : Request) (response : Response) (s : σ) : Fault → Prop
  | skip {p : Request → Response → Step σ Value} {f : Fault} {s' : σ}
      (hp : l.skip = some p) (ha : p request response s = (.error f, s')) :
      Fails l request response s f
  | build {s₁ : σ} {f : Fault} (ha : l.admission request response s = some s₁)
      (hb : (l.building request response s₁).result = .error f) : Fails l request response s f
  | read {s₁ : σ} {b : Built} {f : Fault} (ha : l.admission request response s = some s₁)
      (hb : (l.building request response s₁).result = .ok b) (hr : b.isAbsent = .error f) :
      Fails l request response s f
  | show {s₁ : σ} {b : Built} {f : Fault} (ha : l.admission request response s = some s₁)
      (hb : (l.building request response s₁).result = .ok b) (hc : b.Carries)
      (hl : b.literal = .error f) : Fails l request response s f
  | reread {s₁ : σ} {b : Built} {literal : String} {f : Fault}
      (ha : l.admission request response s = some s₁)
      (hb : (l.building request response s₁).result = .ok b) (hc : b.Carries)
      (hl : b.literal = .ok literal) (hd : b.document l.omitAbsent = .error f) :
      Fails l request response s f
  | submit {s₁ : σ} {b : Built} {literal : String} {d : Document} {f : Fault}
      (ha : l.admission request response s = some s₁)
      (hb : (l.building request response s₁).result = .ok b) (hc : b.Carries)
      (hl : b.literal = .ok literal) (hd : b.document l.omitAbsent = .ok d)
      (hs : (l.submit [d] (l.building request response s₁).state).1 = .error f) :
      Fails l request response s f

/-- The lines at the level of errors that the builder itself writes for an exchange. -/
def builderErrors (l : Logger σ) (request : Request) (response : Response) (s : σ) :
    List LogLine :=
  match l.admission request response s with
  | none => []
  | some s₁ => (l.building request response s₁).events.filter (·.level = .error)

variable {events : List (Event Q ε)} {d? : Option Document} {f? : Option Fault}

/-- An exchange that is left out, or whose skip predicate fails, is not built. -/
theorem admission_eq_none {p : Request → Response → Step σ Value} {r : Except Fault Value} {s' : σ}
    (hp : l.skip = some p) (ha : p request response s = (r, s')) (hr : ∀ v, r = .ok v → v.truth) :
    l.admission request response s = none := by
  unfold admission
  rw [hp]
  simp only [ha]
  cases r with
  | error f => rfl
  | ok v => simp [hr v rfl]

theorem not_submits (ha : l.admission request response s = none) (d : Document) :
    ¬ l.Submits request response s d := by
  rintro ⟨s₁, b, ha', -⟩
  rw [ha] at ha'
  cases ha'

/-- Once the builder has given something, submitting hangs on what it gave. -/
theorem submits_built {s₁ : σ} {b : Built} (ha : l.admission request response s = some s₁)
    (hb : (l.building request response s₁).result = .ok b) (d : Document) :
    l.Submits request response s d ↔ b.isAbsent = .ok false ∧
      (∃ literal, b.literal = .ok literal) ∧ b.document l.omitAbsent = .ok d := by
  rw [Built.isAbsent_eq_false_iff]
  constructor
  · intro h
    obtain ⟨s₂, b', ha', hb', h⟩ := h
    obtain rfl : s₁ = s₂ := Option.some.inj (ha.symm.trans ha')
    obtain rfl : b = b' := Except.ok.inj (hb.symm.trans hb')
    exact h
  · intro h
    exact ⟨s₁, b, ha, hb, h⟩

/-- Where nothing is built, logging fails with the fault of the skip predicate alone. -/
theorem fails_unadmitted (ha : l.admission request response s = none) (f : Fault) :
    l.Fails request response s f ↔
      ∃ p s', l.skip = some p ∧ p request response s = (.error f, s') := by
  constructor
  · intro hf
    cases hf with
    | skip hp hfault => exact ⟨_, _, hp, hfault⟩
    | build ha' | read ha' | «show» ha' | reread ha' | submit ha' =>
        rw [ha] at ha'
        cases ha'
  · intro h
    obtain ⟨p, s', hp, hfault⟩ := h
    exact .skip hp hfault

/-- Where something is built, logging fails in the builder, in reading or showing what it gave, or
in the sink. -/
theorem fails_admitted {s₁ : σ} (ha : l.admission request response s = some s₁) (f : Fault) :
    l.Fails request response s f ↔
      (l.building request response s₁).result = .error f ∨
      ∃ b, (l.building request response s₁).result = .ok b ∧
        (b.isAbsent = .error f ∨
          b.isAbsent = .ok false ∧ (b.literal = .error f ∨
            ∃ literal, b.literal = .ok literal ∧ (b.document l.omitAbsent = .error f ∨
              ∃ d, b.document l.omitAbsent = .ok d ∧
                (l.submit [d] (l.building request response s₁).state).1 = .error f))) := by
  simp only [Built.isAbsent_eq_false_iff]
  constructor
  · intro hf
    cases hf with
    | skip hp hfault =>
        have hnone := admission_eq_none hp hfault (by simp)
        rw [ha] at hnone
        cases hnone
    | build ha' hb =>
        obtain rfl := Option.some.inj (ha.symm.trans ha')
        exact .inl hb
    | read ha' hb hr =>
        obtain rfl := Option.some.inj (ha.symm.trans ha')
        exact .inr ⟨_, hb, .inl hr⟩
    | «show» ha' hb hc hl =>
        obtain rfl := Option.some.inj (ha.symm.trans ha')
        exact .inr ⟨_, hb, .inr ⟨hc, .inl hl⟩⟩
    | reread ha' hb hc hl hd =>
        obtain rfl := Option.some.inj (ha.symm.trans ha')
        exact .inr ⟨_, hb, .inr ⟨hc, .inr ⟨_, hl, .inl hd⟩⟩⟩
    | submit ha' hb hc hl hd hs =>
        obtain rfl := Option.some.inj (ha.symm.trans ha')
        exact .inr ⟨_, hb, .inr ⟨hc, .inr ⟨_, hl, .inr ⟨_, hd, hs⟩⟩⟩⟩
  · intro h
    rcases h with hb | ⟨b, hb, hr | ⟨hc, hl | ⟨literal, hl, hd | ⟨d, hd, hs⟩⟩⟩⟩
    · exact .build ha hb
    · exact .read ha hb hr
    · exact .show ha hb hc hl
    · exact .reread ha hb hc hl hd
    · exact .submit ha hb hc hl hd hs

namespace Course

/-- A document is submitted in a course exactly under the condition for it. -/
theorem submits_iff (h : l.Course request response s events d? f?) (d : Document) :
    l.Submits request response s d ↔ d? = some d := by
  cases h with
  | skipFailed hp ha => simpa using not_submits (admission_eq_none hp ha (by simp)) d
  | skipped hp ha hv => simpa using not_submits (admission_eq_none hp ha (by simp [hv])) d
  | buildFailed ha hb =>
      refine iff_of_false ?_ nofun
      rintro ⟨s₁, b, ha', hb', -⟩
      obtain rfl := Option.some.inj (ha.symm.trans ha')
      rw [hb] at hb'
      cases hb'
  | unreadable ha hb hr => simp [submits_built ha hb, hr]
  | absent ha hb hr => simp [submits_built ha hb, hr]
  | unshown ha hb hr hl => simp [submits_built ha hb, hl]
  | undocumented ha hb hr hl hd => simp [submits_built ha hb, hd]
  | submitFailed ha hb hr hl hd => simp [submits_built ha hb, hr, hl, hd]
  | submitted ha hb hr hl hd => simp [submits_built ha hb, hr, hl, hd]

/-- A fault is reported in a course exactly when logging fails with it. -/
theorem fails_iff (h : l.Course request response s events d? f?) (f : Fault) :
    l.Fails request response s f ↔ f? = some f := by
  cases h with
  | skipFailed hp ha =>
      rw [fails_unadmitted (admission_eq_none hp ha (by simp))]
      simp [hp, ha]
  | skipped hp ha hv =>
      rw [fails_unadmitted (admission_eq_none hp ha (by simp [hv]))]
      simp [hp, ha]
  | buildFailed ha hb => simp [fails_admitted ha, hb]
  | unreadable ha hb hr => simp [fails_admitted ha, hb, hr]
  | absent ha hb hr => simp [fails_admitted ha, hb, hr]
  | unshown ha hb hr hl => simp [fails_admitted ha, hb, hr, hl]
  | undocumented ha hb hr hl hd => simp [fails_admitted ha, hb, hr, hl, hd]
  | submitFailed ha hb hr hl hd hs => simp [fails_admitted ha, hb, hr, hl, hd, hs]
  | submitted ha hb hr hl hd hs => simp [fails_admitted ha, hb, hr, hl, hd, hs]

end Course

/-- Whatever goes wrong in logging, it comes to an end without a fault if what goes wrong has a
wording. -/
theorem logRequest_ok (h : ∀ f, l.Fails request response s f → f.IsWorded) :
    ∃ b, ((l.logRequest request response : Act (Event Q ε) σ (Option Built)) s).result = .ok b := by
  obtain ⟨d?, f?, hcourse, hresult⟩ := course_logRequest (ε := ε) (Q := Q) l request response s
  cases hlogged :
      ((l.logRequest request response : Act (Event Q ε) σ (Option Built)) s).result with
  | ok b => exact ⟨b, rfl⟩
  | error g =>
      obtain ⟨f, rfl, hg⟩ := (hresult g).mp hlogged
      obtain ⟨wording, hwording⟩ := h f ((hcourse.fails_iff f).mpr rfl)
      cases hwording.symm.trans hg

end Logger

end RequestLog
