import RequestLog.Proofs.Logger.Feeding
import RequestLog.Proofs.Logger.Planned
import RequestLog.Proofs.Store.Refusal

/-!
# Loggers without a complete target

Whether the target of a logger's own sink is complete is tested in several places: when the logger
is made, by the sink itself, and by everything that is asked of the store. All of them find what
`Lacks` says, which is read off options and settings (`noticed`). A request is served behind such a
logger as without it, and its document ends in one line of the log. The main statement is
`lack_is_noticed`.
-/

namespace RequestLog

variable {ε Q R σ ρ κ β : Type}

namespace Value

/-- What is taken of two values counts as true exactly if one of them does. -/
theorem truth_orElse (v w : Value) : (v.orElse w).truth = (v.truth || w.truth) := by
  unfold orElse
  cases hv : v.truth with
  | true => rw [if_pos rfl, hv, Bool.true_or]
  | false => rw [if_neg Bool.false_ne_true, Bool.false_or]

/-- The value is a text, perhaps an empty one, or is absent. -/
def IsTextual (v : Value) : Prop := ∃ text?, v = ofText? text?

/-- A text or nothing may stand in the place of what is missing. -/
theorem IsTextual.orElse {v w : Value} (hv : v.IsTextual) (hw : w.IsTextual) :
    (v.orElse w).IsTextual := by
  unfold Value.orElse
  split
  · exact hv
  · exact hw

theorem isTextual_absent : absent.IsTextual := ⟨none, rfl⟩

/-- A text or nothing can be presented. -/
theorem IsTextual.present_ok {v : Value} (h : v.IsTextual) : ∃ name, v.present = .ok name := by
  obtain ⟨text?, rfl⟩ := h
  cases text? with
  | none => exact ⟨_, rfl⟩
  | some text => exact ⟨text, rfl⟩

end Value

namespace LoggerOptions

variable (o : LoggerOptions β) (settings : Settings)

/-- Some part of the target is given neither by the options nor by the settings. -/
def Lacks : Prop :=
  (o.target.address.truth = false ∧ settings.address.truth = false) ∨
  (o.target.database.truth = false ∧ settings.database.truth = false) ∨
  (o.target.collection.truth = false ∧ settings.collection.truth = false)

instance : Decidable (o.Lacks settings) := inferInstanceAs (Decidable (_ ∨ _ ∨ _))

/-- The target is incomplete exactly if some part is given nowhere. -/
theorem isComplete_targetFor : (o.targetFor settings).isComplete = false ↔ o.Lacks settings := by
  unfold Store.Target.isComplete targetFor Lacks
  simp only [Value.truth_orElse, Bool.and_eq_false_iff, Bool.or_eq_false_iff]
  simp [Value.truth, or_assoc]

/-- A target of texts can be named. -/
theorem label_targetFor (hdatabase : o.target.database.IsTextual ∧ settings.database.IsTextual)
    (hcollection : o.target.collection.IsTextual ∧ settings.collection.IsTextual) :
    ∃ name, (o.targetFor settings).label = .ok name := by
  obtain ⟨database, hdatabase⟩ :=
    ((hdatabase.1.orElse hdatabase.2).orElse Value.isTextual_absent).present_ok
  obtain ⟨collection, hcollection⟩ :=
    ((hcollection.1.orElse hcollection.2).orElse Value.isTextual_absent).present_ok
  refine ⟨database ++ "." ++ collection, ?_⟩
  unfold Store.Target.label targetFor
  dsimp only
  rw [hdatabase, hcollection]
  rfl

/-- All who test the target of a logger that makes its own sink find the same: the making of the
logger warns, the sink is not configured, and every insert and every query is refused, exactly if
some part is given neither by the options nor by the settings. -/
structure Noticed (c : Catalog β) (access : Store.Access κ) : Prop where
  target : ∀ p, (o.plan settings false c).result = .ok p → p.target = some (o.targetFor settings)
  warnings : (o.plan settings false c).events.filterMap Notice.warning? =
    if o.Lacks settings then [incompleteText] else []
  lines : ((o.plan settings false c).events.filterMap Notice.line?).filter (·.level == .warning) =
    if o.Lacks settings then [⟨.warning, .requests, incompleteText⟩] else []
  configured : ∀ sink : Store.Sink κ, sink.target = o.targetFor settings →
    (sink.isConfigured = false ↔ o.Lacks settings)
  inserts : ∀ (sink : Store.Sink κ) (documents : List Document),
    sink.target = o.targetFor settings →
      (Store.IsRefused (Store.Sink.insertNow access documents sink) ↔ o.Lacks settings)
  queries : ∀ (sink : Store.Sink κ) (q : Store.Query), sink.target = o.targetFor settings →
    (Store.IsRefused (Store.Sink.query access q sink) ↔ o.Lacks settings)

/-- What is noticed of a target, and what a lookup writes to the log. -/
theorem warnings_notices (t : Store.Target) {lines : List LogLine}
    (hlines : ∀ line ∈ lines, line.level = .debug) :
    (notices t ++ lines.map Notice.logged).filterMap Notice.warning? =
        (if t.isComplete = false then [incompleteText] else []) ∧
      ((notices t ++ lines.map Notice.logged).filterMap Notice.line?).filter (·.level == .warning) =
        (if t.isComplete = false then [⟨.warning, .requests, incompleteText⟩] else []) := by
  have hwarnings : (lines.map Notice.logged).filterMap Notice.warning? = [] := by
    simp [Notice.warning?]
  have hline : (lines.map Notice.logged).filterMap Notice.line? = lines := by
    rw [List.filterMap_map]
    exact List.filterMap_some
  have hdebug : lines.filter (·.level == .warning) = [] := by
    rw [List.filter_eq_nil_iff]
    intro line hmem
    simp [hlines line hmem]
  rw [List.filterMap_append, List.filterMap_append, List.filter_append, hwarnings, hline, hdebug,
    List.append_nil, List.append_nil]
  unfold notices
  cases t.isComplete with
  | true => exact ⟨rfl, rfl⟩
  | false => exact ⟨rfl, rfl⟩

/-- All who test the target of a logger find the same. -/
theorem noticed (c : Catalog β) (access : Store.Access κ) : o.Noticed settings c access := by
  have hlacks := o.isComplete_targetFor settings
  have hdebug := Catalog.notes_lookup (o.formatFor settings) c
  obtain ⟨hwarnings, hlines⟩ := warnings_notices (o.targetFor settings) hdebug
  simp only [hlacks] at hwarnings hlines
  constructor
  · intro p hp
    rw [plan_apply] at hp
    dsimp only at hp
    cases hlooked : (Catalog.lookup (o.formatFor settings) c).result with
    | error f =>
        rw [hlooked] at hp
        cases hp
    | ok selected =>
        rw [hlooked] at hp
        cases hp
        rfl
  · rw [plan_apply]
    exact hwarnings
  · rw [plan_apply]
    exact hlines
  · intro sink htarget
    rw [Store.Sink.isConfigured, htarget]
    exact hlacks
  · intro sink documents htarget
    rw [Store.Sink.isRefused_insertNow_iff, htarget]
    exact hlacks
  · intro sink q htarget
    rw [Store.Sink.isRefused_query_iff, htarget]
    exact hlacks

end LoggerOptions

namespace Logger

/-- What becomes of a request whose document goes to a sink for a target of this name that lacks
parts. If its document is submitted, or whatever goes wrong in logging it has a wording, it is
served as if the application had been called directly. At the moment of logging its document is
submitted, if its record is not suppressed, and in whatever way the event loop goes on from there,
the insert ends in its one line. -/
structure Unhurt (access : Store.Access κ) (target : Store.Target) (name : String) (l : Logger ρ)
    (w : Surroundings ε Q R σ) (scope : Scope) (app : App Q R) (entries : List (Store.Entry κ))
    (loop : Store.Loop κ) (s : σ) (r : ρ)
    (served : Outcome (Event Q ε) (σ × ρ × Store.Loop κ) Unit) : Prop where
  alike : (∃ d, served.events.filterMap Event.batch? = [[d]]) ∨
      (l.feeding access).onSecond.LogsInWords w.onFirst scope app (s, r, loop) →
    served.events.filter Event.isExchange = (app.call w s).events ∧
      served.result = (app.call w s).result ∧ served.state.1 = (app.call w s).state
  submits : ∃ request response s₁,
    (l.feeding access).onSecond.LogsAt w.onFirst scope app (s, r, loop) request response s₁ ∧
    ∀ d, (l.feeding access).onSecond.Submits request response s₁ d ↔
      served.events.filterMap Event.batch? = [[d]]
  ends : ∀ d, served.events.filterMap Event.batch? = [[d]] →
    let submission : Store.Entry κ := ⟨.submit [d], loop.sink.client, []⟩
    Store.History access target (entries ++ [submission]) served.state.2.2 ∧
      ∀ later l', Store.History access target (entries ++ submission :: later) l' →
        Store.Lacking access target name (entries ++ submission :: later) l'
          (Store.batches entries).length

/-- A request is served as without the logger, and its insert ends. -/
theorem unhurt {access : Store.Access κ} {target : Store.Target} {name : String}
    (hlacks : target.isComplete = false) (hname : target.label = .ok name) (l : Logger ρ)
    (w : Surroundings ε Q R σ) {scope : Scope} (hscope : scope.IsRequest) {app : App Q R}
    (happ : app.IsTyped) {entries : List (Store.Entry κ)} {loop : Store.Loop κ}
    (h : Store.History access target entries loop) (s : σ) (r : ρ) :
    Unhurt access target name l w scope app entries loop s r
      ((l.feeding access).onSecond.serve w.onFirst scope app (s, r, loop)) := by
  constructor
  · intro h
    rcases h with ⟨d, hbatches⟩ | hwords
    · exact (l.feeding access).serve_mimics w hscope (fun _ => happ)
        (logsInWords_of_batches hscope hbatches)
    · exact (l.feeding access).serve_mimics w hscope (fun _ => happ) hwords
  · obtain ⟨request, response, s₁, hat⟩ :=
      exists_logsAt hscope (l.feeding access).onSecond w.onFirst app (s, r, loop)
    exact ⟨request, response, s₁, hat, hat.submits_iff_batches hscope.kind⟩
  · intro d hbatches submission
    have hloop := feeds_serve access l w hscope app (s, r, loop)
    constructor
    · rw [hloop, hbatches]
      exact h.turn (.submit [d]) rfl
    · intro later l' hlater
      refine hlater.lacking hlacks hname ?_
      have hsubmitted : Store.batches (submission :: later) = [d] :: Store.batches later := rfl
      rw [Store.batches_append, List.length_append, hsubmitted, List.length_cons]
      exact Nat.lt_add_of_pos_right (Nat.succ_pos _)

/-- **Incomplete targets.**  When a logger makes its own sink, whatever tests the target finds it
incomplete exactly if some part is given neither by the options nor by the settings. If so, a
request whose document is submitted is served as without the logger, and the document ends in one
line of the sink at the level of errors. The target can be named in this line if its database and
its collection are texts or absent in options and settings. -/
theorem lack_is_noticed (o : LoggerOptions β) (settings : Settings) (c : Catalog β)
    (access : Store.Access κ) :
    o.Noticed settings c access ∧
    (o.target.database.IsTextual ∧ settings.database.IsTextual →
      o.target.collection.IsTextual ∧ settings.collection.IsTextual →
        ∃ name, (o.targetFor settings).label = .ok name) ∧
    ∀ name, o.Lacks settings → (o.targetFor settings).label = .ok name →
      ∀ (l : Logger ρ) (w : Surroundings ε Q R σ) (scope : Scope) (app : App Q R)
        (entries : List (Store.Entry κ)) (loop : Store.Loop κ) (s : σ) (r : ρ),
        scope.IsRequest → app.IsTyped → Store.History access (o.targetFor settings) entries loop →
          Unhurt access (o.targetFor settings) name l w scope app entries loop s r
            ((l.feeding access).onSecond.serve w.onFirst scope app (s, r, loop)) := by
  refine ⟨o.noticed settings c access, o.label_targetFor settings, ?_⟩
  intro name hlacks hname l w scope app entries loop s r hscope happ h
  exact unhurt ((o.isComplete_targetFor settings).mpr hlacks) hname l w hscope happ h s r

/-- A store that does all that it is asked. -/
def willing : Store.Access Unit := ⟨fun _ c => (.ok .done, c), .int 5000⟩

/-- Options with a database alone, and settings with a collection alone: the address is missing. -/
theorem lack_is_noticed_without_address :
    let o : LoggerOptions Unit :=
      { format := .builder (), target := { database := .text "logs", collection := .text "" } }
    let settings : Settings := { collection := .text "requests" }
    let loop : Store.Loop Unit := ⟨{ target := o.targetFor settings, client := () }, []⟩
    let served := (ofStatus.feeding willing).onSecond.serve (Surroundings.refusing 3).onFirst
      (.ofPath "/logs") .startingTwice (0, 0, loop)
    o.Lacks settings ∧ (o.targetFor settings).label = .ok "logs.requests" ∧
      (Scope.ofPath "/logs").IsRequest ∧ App.startingTwice.IsTyped ∧
      Store.History willing (o.targetFor settings) [] loop ∧
      (o.plan settings false Catalog.builtin).events.filterMap Notice.warning? =
        [LoggerOptions.incompleteText] ∧
      (∃ submission, Store.Lacking willing (o.targetFor settings) "logs.requests" [submission]
        served.state.2.2 0) ∧
      ((Store.Sink.drain willing served.state.2.2.sink).events.filterMap Store.Event.line?).map
          (fun line => (line.level, line.text)) =
        [(.error, "Failed to persist request record to logs.requests: " ++
          "persistence target is incomplete, missing: url")] := by
  intro o settings loop served
  have hlacks : o.Lacks settings := .inl ⟨rfl, rfl⟩
  have hname : (o.targetFor settings).label = .ok "logs.requests" := rfl
  have hscope : (Scope.ofPath "/logs").IsRequest := Scope.isRequest_ofPath _
  have htyped : App.startingTwice.IsTyped := ⟨rfl, fun _ => ⟨rfl, fun _ => ⟨rfl, fun _ => trivial⟩⟩⟩
  have hnew : Store.History willing (o.targetFor settings) [] loop := .new ()
  obtain ⟨hnoticed, -, hunhurt⟩ := lack_is_noticed (ε := Unit) (Q := Unit) (R := Unit) (σ := Nat)
    (ρ := Nat) o settings Catalog.builtin willing
  have hserved := hunhurt "logs.requests" hlacks hname ofStatus (.refusing 3) (.ofPath "/logs")
    .startingTwice [] loop 0 0 hscope htyped hnew
  obtain ⟨d, hbatches⟩ : ∃ d, served.events.filterMap Event.batch? = [[d]] := ⟨_, rfl⟩
  obtain ⟨hsubmitted, hlacking⟩ := hserved.ends d hbatches
  refine ⟨hlacks, hname, hscope, htyped, hnew, ?_, ⟨_, hlacking [] _ hsubmitted⟩, ?_⟩
  · rw [hnoticed.warnings, if_pos hlacks]
  · decide +kernel

end Logger

end RequestLog
