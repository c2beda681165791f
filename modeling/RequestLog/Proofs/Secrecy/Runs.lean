import RequestLog.Proofs.Logger.Planned
import RequestLog.Proofs.Secrecy.Process
import RequestLog.Proofs.Secrecy.Store

/-!
# The address does not come out

A run of commands is made twice, with one address and with another that can stand for it, and with a
client that does not go by the address. Processes that come of this are the same but for the address
in settings and in targets (`Process.Alike`). Every command keeps them so and is seen the same
(`twin_perform`), and so is every run: the main statement is `runs_alike`. The two runs differ in
the addresses that connections are opened with, and in nothing else that is noted, answered or
refused.
-/

namespace RequestLog

open Store

variable {u v : String} {σ β α : Type} {R : σ → σ → Prop}

/-- The options are the same but for the address of the target. -/
inductive LoggerOptions.Alike (u v : String) : LoggerOptions β → LoggerOptions β → Prop
  | intro (format : Format.Spec β) {t t' : Target} (h : t.Alike u v t') (immediate : Value) :
      Alike u v ⟨format, t, immediate⟩ ⟨format, t', immediate⟩

/-- The plans are the same but for the address of the target. -/
inductive LoggerPlan.Alike (u v : String) : LoggerPlan β → LoggerPlan β → Prop
  | intro {t t' : Option Target} (h : Option.Rel (Target.Alike u v) t t')
      (immediate queryLimit : Value) (selected : Selected β) :
      Alike u v ⟨t, immediate, queryLimit, selected⟩ ⟨t', immediate, queryLimit, selected⟩

/-! ### Making loggers -/

namespace LoggerOptions

variable {o o' : LoggerOptions β} {s s' : Settings}

/-- Options and settings that are alike have targets that are alike. -/
theorem targetFor_alike (huv : Interchangeable u v) (ho : o.Alike u v o')
    (hs : s.Alike u v s') : (o.targetFor s).Alike u v (o'.targetFor s') := by
  have haddress : AddressAlike u v s.address s'.address := hs.fields .address
  have hdatabase : s.database = s'.database := hs.fields .database
  have hcollection : s.collection = s'.collection := hs.fields .collection
  obtain ⟨format, ⟨h, database, collection⟩, immediate⟩ := ho
  unfold targetFor
  rw [hdatabase, hcollection]
  exact .intro (((h.orElse huv.left huv.right haddress)).orElse huv.left huv.right (.same _)) _ _

/-- Targets that are alike are complete, or lack the same parts. -/
theorem twin_checkTarget {S : σ → σ → Prop} (huv : Interchangeable u v) {t t' : Target}
    (h : t.Alike u v t') : Act.Twin Eq S Eq (checkTarget t) (checkTarget t') := by
  unfold checkTarget
  rw [h.isComplete huv]
  split
  · exact (Act.twin_note rfl).bind_eq fun _ => Act.twin_note rfl
  · exact Act.twin_pure rfl

/-- Options and settings that are alike make the same plan but for the address. -/
theorem twin_plan (huv : Interchangeable u v) (ho : o.Alike u v o') (hs : s.Alike u v s')
    (hasSink : Bool) :
    Act.Twin Eq Eq (LoggerPlan.Alike u v) (o.plan s hasSink) (o'.plan s' hasSink) := by
  have htarget := targetFor_alike huv ho hs
  have himmediate : s.immediate = s'.immediate := hs.fields .immediate
  have hlimit : s.queryLimit = s'.queryLimit := hs.fields .queryLimit
  have hformat : o.formatFor s = o'.formatFor s' := by
    have hsame : s.format = s'.format := hs.fields .format
    obtain ⟨format, -, immediate⟩ := ho
    unfold formatFor
    rw [hsame]
  have hchosen : (if o.immediate.isAbsent then s.immediate else o.immediate) =
      if o'.immediate.isAbsent then s'.immediate else o'.immediate := by
    obtain ⟨-, -, immediate⟩ := ho
    rw [himmediate]
  have hlookup : ∀ {t t' : Option Target}, Option.Rel (Target.Alike u v) t t' →
      Act.Twin Eq Eq (LoggerPlan.Alike u v)
        (do
          let selected ← (Catalog.lookup (o.formatFor s)).mapEvents Notice.logged
          return LoggerPlan.mk t (if o.immediate.isAbsent then s.immediate else o.immediate)
            s.queryLimit selected)
        (do
          let selected ← (Catalog.lookup (o'.formatFor s')).mapEvents Notice.logged
          return LoggerPlan.mk t' (if o'.immediate.isAbsent then s'.immediate else o'.immediate)
            s'.queryLimit selected) := by
    intro t t' ht
    rw [hformat, hchosen, hlimit]
    refine Act.Twin.bind_eq (Act.Twin.rfl _) fun selected => Act.twin_pure (.intro ht _ _ _)
  unfold plan
  cases hasSink with
  | true => exact hlookup .none
  | false =>
      refine Act.Twin.bind_eq (twin_checkTarget huv htarget) fun _ => ?_
      exact hlookup (.some htarget)

end LoggerOptions

/-! ### Lists that are alike -/

/-- Lists that are alike have at each place elements that are alike, or none. -/
theorem getElem?_alike {A : α → α → Prop} {l l' : List α} (h : List.Forall₂ A l l') (n : Nat) :
    Option.Rel A l[n]? l'[n]? := by
  induction h generalizing n with
  | nil => exact .none
  | cons ha _ ih =>
      cases n with
      | zero => exact .some ha
      | succ n => exact ih n

/-- Lists stay alike if elements that are alike are put at one place. -/
theorem set_alike {A : α → α → Prop} {l l' : List α} (h : List.Forall₂ A l l') (n : Nat) {a a' : α}
    (ha : A a a') : List.Forall₂ A (l.set n a) (l'.set n a') := by
  induction h generalizing n with
  | nil => exact .nil
  | cons hb hrest ih =>
      cases n with
      | zero => exact .cons ha hrest
      | succ n => exact .cons hb (ih n)

/-! ### Processes -/

namespace Process

/-- The processes are the same but for the address in settings and in targets, with clients in
related states. -/
structure Alike (u v : String) (R : σ → σ → Prop) (p p' : Process σ β) : Prop where
  configuration : p.configuration.Alike u v p'.configuration
  made : List.Forall₂ (Settings.Alike u v) p.made p'.made
  catalog : p.catalog = p'.catalog
  client : R p.client p'.client
  loops : List.Forall₂ (Loop.Alike u v fun _ _ => True) p.loops p'.loops
  loggers : List.Forall₂ (fun l l' => l.1 = l'.1 ∧ l.2.Alike u v l'.2) p.loggers p'.loggers

namespace Alike

variable {p p' : Process σ β}

/-- Processes stay alike if loops for targets that are alike are added. -/
theorem addLoop (hp : Alike u v R p p') {t t' : Target} (ht : t.Alike u v t') :
    Alike u v R (p.addLoop t) (p'.addLoop t') :=
  { hp with loops := List.rel_append hp.loops (.cons (.intro (.intro ht trivial _ _ _) _) .nil) }

/-- Processes stay alike if loggers by plans that are alike are added. -/
theorem addLogger (hp : Alike u v R p p') (sink : Nat) {plan plan' : LoggerPlan β}
    (hplan : plan.Alike u v plan') :
    Alike u v R (p.addLogger sink plan) (p'.addLogger sink plan') := by
  have hlength : p.loops.length = p'.loops.length := hp.loops.length_eq
  obtain ⟨ht, immediate, queryLimit, selected⟩ := id hplan
  cases ht with
  | none => exact { hp with loggers := List.rel_append hp.loggers (.cons ⟨rfl, hplan⟩ .nil) }
  | some ht =>
      have hadded : Alike u v R
          { p with loggers := p.loggers ++
            [(p.loops.length, ⟨some _, immediate, queryLimit, selected⟩)] }
          { p' with loggers := p'.loggers ++
            [(p'.loops.length, ⟨some _, immediate, queryLimit, selected⟩)] } :=
        { hp with loggers := List.rel_append hp.loggers (.cons ⟨hlength, hplan⟩ .nil) }
      exact hadded.addLoop ht

end Alike

/-- A process is like itself if its client's state is related to itself. -/
theorem alike_refl {p : Process σ β} (hclient : R p.client p.client) : Alike u v R p p where
  configuration := {
    environment := fun _ => .inl rfl
    current := by
      cases p.configuration.current with
      | none => exact .none
      | some found => exact .some ⟨rfl, .refl _⟩
    made := rfl }
  made := List.forall₂_same.mpr fun s _ => .refl s
  catalog := rfl
  client := hclient
  loops := List.forall₂_same.mpr fun l _ => .intro (.intro (.intro (.same _) _ _) trivial _ _ _) _
  loggers := List.forall₂_same.mpr fun l _ => by
    refine ⟨rfl, .intro ?_ _ _ _⟩
    cases l.2.target with
    | none => exact .none
    | some t => exact .some (.intro (.same _) _ _)

/-- The same happens, but for the address that a connection is opened with. -/
inductive Happening.Alike (u v : String) : Happening → Happening → Prop
  | store {e e' : Store.Event} (h : e.Alike u v e') : Alike u v (.store e) (.store e')
  | notice (n : Notice) : Alike u v (.notice n) (.notice n)

/-- The reports tell of the same result, and of the same happenings but for the address that a
connection is opened with. -/
structure Report.Alike (u v : String) (r r' : Report) : Prop where
  happenings : List.Forall₂ (Happening.Alike u v) r.happenings r'.happenings
  result : r.result = r'.result

/-- Acts on processes that do not tell which address it is. -/
abbrev Twins (u v : String) (R : σ → σ → Prop) (A : α → α → Prop)
    (m m' : Act Happening (Process σ β) α) : Prop :=
  Act.Twin (Happening.Alike u v) (Alike u v R) A m m'

/-- What is done alike to the configurations is done alike in the processes. -/
theorem twin_onConfiguration {A : α → α → Prop} {m m' : Act LogLine Configuration α}
    (hm : Act.Twin Eq (Configuration.Alike u v) A m m') :
    Twins u v R A (onConfiguration m : Act Happening (Process σ β) α) (onConfiguration m') := by
  refine (hm.mapEvents (F := Happening.Alike u v) ?_).onPart (fun p p' hp => hp.configuration) ?_
  · rintro line _ rfl
    exact .notice _
  · intro c c' p p' hc hp
    exact { hp with configuration := hc }

/-- What is done alike to the catalogs is done alike in the processes. -/
theorem twin_onCatalog {A : α → α → Prop} {m m' : Act Notice (Catalog β) α}
    (hm : Act.Twin Eq Eq A m m') :
    Twins u v R A (onCatalog m : Act Happening (Process σ β) α) (onCatalog m') := by
  refine (hm.mapEvents (F := Happening.Alike u v) ?_).onPart (fun p p' hp => hp.catalog) ?_
  · rintro n _ rfl
    exact .notice n
  · intro c c' p p' hc hp
    exact { hp with catalog := hc }

/-- What is done alike to two loops is done alike in the processes that have them. -/
theorem twin_onLoop (n : Nat) {l l' : Loop Unit} (hl : l.Alike u v (fun _ _ => True) l')
    {A : α → α → Prop} {m m' : Act Store.Event (Loop σ) α}
    (hm : Act.Twin (Event.Alike u v) (Loop.Alike u v R) A m m') :
    Twins u v R A (onLoop n l m : Act Happening (Process σ β) α) (onLoop n l' m') := by
  refine (hm.mapEvents (F := Happening.Alike u v) fun e e' he => .store he).onPart ?_ ?_
  · intro p p' hp
    obtain ⟨⟨ht, -⟩⟩ := hl
    exact .intro (.intro ht hp.client _ _ _) _
  · rintro _ _ p p' ⟨⟨ht, hc⟩⟩ hp
    exact { hp with
      client := hc
      loops := set_alike hp.loops n (.intro (.intro ht trivial _ _ _) _) }

/-- The settings that are in force, or that were made, are alike. -/
theorem twin_settingsOf (number : Option Nat) :
    Twins u v R (Settings.Alike u v) (settingsOf number : Act Happening (Process σ β) Settings)
      (settingsOf number) := by
  refine Act.Twin.bind Act.twin_get fun p p' hp => ?_
  have hmade : Option.Rel (Settings.Alike u v) (number.bind fun n => p.made[n]?)
      (number.bind fun n => p'.made[n]?) := by
    cases number with
    | none => exact .none
    | some n => exact getElem?_alike hp.made n
  generalize (number.bind fun n => p.made[n]?) = found at hmade
  generalize (number.bind fun n => p'.made[n]?) = found' at hmade
  cases hmade with
  | some hs => exact Act.twin_pure hs
  | none =>
      exact (twin_onConfiguration Configuration.twin_settings).bind fun _ _ h =>
        Act.twin_pure h.2

/-- The time limit is the same, as it is no part of the address. -/
theorem twin_timeoutIf (needed : Bool) :
    Twins u v R Eq (timeoutIf needed : Act Happening (Process σ β) Value) (timeoutIf needed) := by
  cases needed with
  | false => exact Act.twin_pure rfl
  | true =>
      exact (twin_onConfiguration Configuration.twin_settings).bind fun _ _ h =>
        Act.twin_pure (h.2.fields .selectionTimeout)

section Stores

variable {client : Client σ} (huv : Interchangeable u v) (hclient : client.Blind u v R)

/-- What is done alike to the sinks is done alike in the loops that have them. -/
theorem twin_onSink {A : α → α → Prop} {m m' : Act Store.Event (Sink σ) α}
    (hm : Act.Twin (Event.Alike u v) (Sink.Alike u v R) A m m') :
    Act.Twin (Event.Alike u v) (Loop.Alike u v R) A (Loop.onSink m) (Loop.onSink m') := by
  refine hm.onPart ?_ ?_
  · rintro _ _ ⟨h, -⟩
    exact h
  · rintro s s' _ _ hs ⟨-, drains⟩
    exact .intro hs drains

/-- What is done with a loop that there may be is done alike, or fails alike. -/
theorem twin_withLoop (n : Nat) {f f' : Loop Unit → Act Happening (Process σ β) Answer}
    (hf : ∀ l l', l.Alike u v (fun _ _ => True) l' → Twins u v R Eq (f l) (f' l')) :
    Twins u v R Eq (withLoop n f) (withLoop n f') := by
  refine Act.Twin.bind Act.twin_get fun p p' hp => ?_
  have hloop := getElem?_alike hp.loops n
  generalize p.loops[n]? = found at hloop
  generalize p'.loops[n]? = found' at hloop
  cases hloop with
  | none => exact Act.twin_pure rfl
  | some hl => exact hf _ _ hl

include huv in
/-- What is done with a sink that there may be is done alike, or fails alike. -/
theorem twin_withSink (n : Nat) {m : Access σ → Act Store.Event (Sink σ) Answer}
    (hm : ∀ timeout, Act.Twin (Event.Alike u v) (Sink.Alike u v R) Eq (m ⟨client, timeout⟩)
      (m ⟨client, timeout⟩)) :
    Twins u v R Eq (withSink client n m : Act Happening (Process σ β) Answer)
      (withSink client n m) := by
  refine twin_withLoop n fun l l' hl => ?_
  have hconfigured : l.sink.isConfigured = l'.sink.isConfigured := by
    obtain ⟨⟨ht, -⟩⟩ := hl
    exact ht.isComplete huv
  rw [hconfigured]
  exact (twin_timeoutIf _).bind_eq fun timeout => twin_onLoop n hl (twin_onSink (hm timeout))

/-- A submission where nothing runs fails alike. -/
theorem twin_submitIdle (n : Nat) (documents : List Document) :
    Twins u v R Eq (submitIdle n documents : Act Happening (Process σ β) Answer)
      (submitIdle n documents) :=
  twin_withLoop n fun _ _ hl => twin_onLoop n hl <|
    (twin_onSink (Sink.twin_submit false documents)).bind_eq fun _ => Act.twin_pure rfl

/-- A job that cannot be done is reported alike. -/
theorem twin_failJob (j : Job) (f : Fault) :
    Act.Twin (Event.Alike u v) (Loop.Alike u v R) Eq
      (Loop.failJob j f : Act Store.Event (Loop σ) Unit) (Loop.failJob j f) := by
  refine twin_onSink (Act.twin_modify ?_)
  rintro _ _ ⟨ht, hc⟩
  exact .intro ht hc _ _ _

include huv hclient in
/-- A turn of a loop is taken alike. -/
theorem twin_takeTurn (n : Nat) (turn : Turn) :
    Twins u v R Eq (takeTurn client n turn : Act Happening (Process σ β) Answer)
      (takeTurn client n turn) := by
  refine twin_withLoop n fun l l' hl => ?_
  have hbegins : l.begins turn = l'.begins turn := by
    obtain ⟨⟨ht, -⟩⟩ := hl
    unfold Loop.begins Sink.isConfigured
    rw [ht.isComplete huv]
  rw [Turn.isPossible_eq hl, hbegins]
  split
  · exact Act.twin_pure rfl
  · refine (twin_timeoutIf _).attempt_eq.bind_eq fun timeout => ?_
    refine Act.Twin.bind_eq ?_ fun _ => Act.twin_pure rfl
    cases timeout with
    | ok timeout => exact twin_onLoop n hl (Turn.twin_take huv hclient turn)
    | error f =>
        simp only [takeWith]
        cases turn.job? with
        | some j => exact twin_onLoop n hl (twin_failJob j f)
        | none => exact Act.twin_pure rfl

/-- The same settings with two addresses for the secret one are alike. -/
theorem fill_alike (given : List Given) :
    List.Forall₂ (Settings.EntryAlike u v) (given.map (·.fill u)) (given.map (·.fill v)) := by
  refine List.forall₂_map_left_iff.mpr (List.forall₂_map_right_iff.mpr ?_)
  refine List.forall₂_same.mpr fun g _ => ?_
  cases g with
  | here => exact .address
  | entry name w => exact .same _

/-- A slot for an address holds the one in the one run and the other in the other, or the same in
both. -/
theorem Slot.fill_alike (slot : Slot) : AddressAlike u v (slot.fill u) (slot.fill v) := by
  cases slot with
  | here => exact .address
  | value w => exact .same w

include huv hclient in
/-- An insert by command is done alike. -/
theorem twin_insert (n : Nat) (documents : List Document) :
    Twins u v R Eq (insert client n documents : Act Happening (Process σ β) Answer)
      (insert client n documents) :=
  twin_withSink huv n fun _ =>
    (Sink.twin_insertNow huv hclient documents).bind_eq fun _ => Act.twin_pure rfl

include huv hclient in
/-- A search by command is done alike. -/
theorem twin_find (n : Nat) (q : Query) :
    Twins u v R Eq (find client n q : Act Happening (Process σ β) Answer) (find client n q) :=
  twin_withSink huv n fun _ =>
    (Sink.twin_query huv hclient q).bind_eq fun _ => Act.twin_pure rfl

include huv hclient in
/-- **Commands.**  A command does not tell which address it is. -/
theorem Command.twin_perform (command : Command β) :
    Twins u v R Eq (command.perform client u) (command.perform client v) := by
  cases command with
  | setVariable name text =>
      exact (twin_onConfiguration (Configuration.twin_setVariable name text)).bind_eq fun _ =>
        Act.twin_pure rfl
  | setAddress =>
      exact (twin_onConfiguration Configuration.twin_setAddress).bind_eq fun _ => Act.twin_pure rfl
  | make values =>
      have hmake : Act.Twin Eq (Configuration.Alike u v) (Settings.Alike u v)
          (do Settings.make (← Act.get).environment (values.map (·.fill u)))
          (do Settings.make (← Act.get).environment (values.map (·.fill v))) :=
        Act.Twin.bind Act.twin_get fun c c' hc =>
          Settings.twin_make hc.environment (fill_alike values)
      refine (twin_onConfiguration hmake).bind fun s s' hs => ?_
      refine (Act.twin_modify fun p p' hp => ?_).bind_eq fun _ => Act.twin_pure rfl
      exact { hp with made := List.rel_append hp.made (.cons hs .nil) }
  | configure values =>
      exact (twin_onConfiguration (Configuration.twin_configure huv.left huv.right
        (fill_alike values))).bind fun _ _ _ => Act.twin_pure rfl
  | reset =>
      exact (twin_onConfiguration (Act.twin_modify fun _ _ hc => hc.reset)).bind_eq fun _ =>
        Act.twin_pure rfl
  | summarize settings =>
      refine (twin_settingsOf settings).bind fun s s' hs => ?_
      exact (Act.twin_ofExcept_eq (hs.summary huv.left huv.right)).bind_eq fun _ =>
        Act.twin_pure rfl
  | sink address database collection =>
      refine (Act.twin_modify fun p p' hp => ?_).bind_eq fun _ => Act.twin_pure rfl
      exact hp.addLoop (.intro (address.fill_alike) database collection)
  | logger format address database collection immediate settings own =>
      refine (twin_settingsOf settings).bind fun s s' hs => ?_
      have hoptions : LoggerOptions.Alike u v
          { format, target := ⟨address.fill u, database, collection⟩, immediate }
          { format, target := ⟨address.fill v, database, collection⟩, immediate } :=
        .intro format (.intro address.fill_alike database collection) immediate
      refine (twin_onCatalog (LoggerOptions.twin_plan huv hoptions hs _)).bind
        fun plan plan' hplan => ?_
      refine (Act.twin_modify fun p p' hp => ?_).bind_eq fun _ => Act.twin_pure rfl
      exact hp.addLogger _ hplan
  | turn n t => exact twin_takeTurn huv hclient n t
  | submitIdle n documents => exact twin_submitIdle n documents
  | insert n documents => exact twin_insert huv hclient n documents
  | query n q => exact twin_find huv hclient n q
  | retrieve k q =>
      refine Act.Twin.bind Act.twin_get fun p p' hp => ?_
      have hlogger := getElem?_alike hp.loggers k
      generalize p.loggers[k]? = found at hlogger
      generalize p'.loggers[k]? = found' at hlogger
      cases hlogger with
      | none => exact Act.twin_pure rfl
      | @some l l' hl =>
          obtain ⟨n, plan⟩ := l
          obtain ⟨n', plan'⟩ := l'
          obtain ⟨rfl, hplan⟩ := hl
          have hquery : plan.query q = plan'.query q := by
            cases hplan
            rfl
          dsimp only
          rw [hquery]
          exact twin_find huv hclient n _

include huv hclient in
/-- Runs from processes that are alike have reports that are alike, one by one. -/
theorem run_alike (commands : List (Command β)) {p p' : Process σ β} (hp : Alike u v R p p') :
    List.Forall₂ (Report.Alike u v) (run client u commands p).1 (run client v commands p').1 ∧
      Alike u v R (run client u commands p).2 (run client v commands p').2 := by
  induction commands generalizing p p' with
  | nil => exact ⟨.nil, hp⟩
  | cons command rest ih =>
      obtain ⟨hevents, hresult, hstate⟩ := Command.twin_perform huv hclient command p p' hp
      obtain ⟨hreports, hafter⟩ := ih hstate
      exact ⟨.cons ⟨hevents, hresult.eq_of_eq⟩ hreports, hafter⟩

end Stores

/-- The same is noticed. -/
theorem Happening.Alike.notice?_eq {h h' : Happening} (hh : h.Alike u v h') :
    h.notice? = h'.notice? := by
  cases hh with
  | store he => cases he <;> rfl
  | notice n => rfl

/-- Happenings that are alike hold the same notices. -/
theorem filterMap_notice? {hs hs' : List Happening}
    (h : List.Forall₂ (Happening.Alike u v) hs hs') :
    hs.filterMap Happening.notice? = hs'.filterMap Happening.notice? :=
  filterMap_eq_of_alike (fun _ _ hh => hh.notice?_eq) h

/-- Runs that are alike leave the same lines and warnings. -/
theorem noticed_eq {reports reports' : List Report}
    (h : List.Forall₂ (Report.Alike u v) reports reports') :
    noticed reports = noticed reports' := by
  induction h with
  | nil => rfl
  | @cons r r' rest rest' hr _ ih =>
      rw [noticed, List.flatMap_cons, filterMap_notice? hr.happenings]
      exact congrArg _ ih

/-- **Runs.**  Commands are performed twice from one process, with two addresses that can stand for
each other and a client that does not go by the address. The same lines are logged and the same
warnings given, every command comes to the same answer or the same fault, and what is called is the
same but for the addresses that connections are opened with. Afterwards the processes are the same
but for the address in settings and in targets. -/
theorem runs_alike (huv : Interchangeable u v) {client : Client σ}
    (hclient : client.Blind u v R) {p : Process σ β} (hp : R p.client p.client)
    (commands : List (Command β)) :
    noticed (run client u commands p).1 = noticed (run client v commands p).1 ∧
      (run client u commands p).1.map (·.result) = (run client v commands p).1.map (·.result) ∧
      List.Forall₂ (Report.Alike u v) (run client u commands p).1 (run client v commands p).1 ∧
      Alike u v R (run client u commands p).2 (run client v commands p).2 := by
  obtain ⟨hreports, hafter⟩ := run_alike huv hclient commands (alike_refl hp)
  refine ⟨noticed_eq hreports, ?_, hreports, hafter⟩
  have hresults : List.Forall₂ Eq ((run client u commands p).1.map (·.result))
      ((run client v commands p).1.map (·.result)) :=
    List.forall₂_map_left_iff.mpr (List.forall₂_map_right_iff.mpr
      (hreports.imp fun _ _ h => h.result))
  rwa [List.forall₂_eq_eq_eq] at hresults

/-- A client that keeps the addresses it was connected to, and answers without looking at them. -/
def keepingClient : Client (List Value) := fun c addresses =>
  match c with
  | .connect o => (.ok .done, o.address :: addresses)
  | .insert _ _ documents => (.ok (.inserted documents.length), addresses)
  | .fetch _ => (.ok (.found []), addresses)
  | _ => (.ok .done, addresses)

/-- A client that keeps its calls without looking into them is blind to the address. -/
theorem blind_keepingClient (u v : String) :
    keepingClient.Blind u v fun kept kept' => kept.length = kept'.length := by
  rintro c c' hc kept kept' hkept
  cases hc with
  | same c => cases c <;> exact ⟨rfl, by simpa [keepingClient] using hkept⟩
  | connect h => exact ⟨rfl, congrArg (· + 1) hkept⟩

/-- A process in which nothing has been done. -/
def fresh (client : σ) : Process σ β where
  configuration := {}
  made := []
  catalog := Catalog.builtin
  client := client
  loops := []
  loggers := []

/-- The address is given to the environment, to settings and to a sink whose target is incomplete; a
logger is made for it, and its sink is used in every way. -/
def usage : List (Command Unit) :=
  [.setAddress, .make [.here], .sink .here .absent .absent,
    .configure [.entry "db_name" (.text "logs"), .entry "collection" (.text "requests")],
    .summarize none,
    .logger (.value (.text ":method")) (.value .absent) .absent .absent .absent none none,
    .turn 1 (.submit []), .turn 1 (.job (.start 0)), .turn 1 (.job (.report 0)), .submitIdle 1 [],
    .insert 0 [], .insert 1 [], .retrieve 0 {}]

/-- Five events when the task of a batch runs, five for an insert, and seven for a search. -/
theorem runs_alike_keeping :
    (run keepingClient "mongodb://ada:secret@db/" usage (fresh [])).1.map
        (·.happenings.length) = [0, 0, 0, 0, 0, 1, 0, 5, 0, 0, 0, 5, 7] ∧
      noticed (run keepingClient "mongodb://ada:secret@db/" usage (fresh [])).1 =
        noticed (run keepingClient "mongodb://localhost/" usage (fresh [])).1 ∧
      (run keepingClient "mongodb://ada:secret@db/" usage (fresh [])).1.map (·.result) =
        (run keepingClient "mongodb://localhost/" usage (fresh [])).1.map (·.result) := by
  have huv : Interchangeable "mongodb://ada:secret@db/" "mongodb://localhost/" :=
    ⟨by decide, by decide, false, rfl, rfl⟩
  have halike := runs_alike huv (blind_keepingClient _ _) (p := fresh []) rfl usage
  exact ⟨by decide +kernel, halike.1, halike.2.1⟩

end Process

end RequestLog
