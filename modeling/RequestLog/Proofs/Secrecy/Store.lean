import RequestLog.Proofs.Secrecy.Settings
import RequestLog.Proofs.Store.Loop

/-!
# The store under one address or another

A client of the store that does not go by the address it connects to (`Client.Blind`) answers the
same under either of two addresses. So whatever is done with the store comes to the same, and what
is noted of it is the same but for the address that a connection is opened with: inserting and
finding (`twin_insert`, `twin_find`), and each turn of a sink in an event loop (`twin_take`).
-/

namespace RequestLog

/-- The addresses can stand for each other: there is something in both, and both can be read and
decide alike whether a connection is encrypted. -/
structure Interchangeable (u v : String) : Prop where
  left : u ≠ ""
  right : v ≠ ""
  encrypted : ∃ b, Store.Address.isEncrypted u = .ok b ∧ Store.Address.isEncrypted v = .ok b

namespace Store

variable {u v : String} {σ α : Type} {R : σ → σ → Prop}

/-- The targets are the same but for the address. -/
inductive Target.Alike (u v : String) : Target → Target → Prop
  | intro {a a' : Value} (h : AddressAlike u v a a') (database collection : Value) :
      Alike u v ⟨a, database, collection⟩ ⟨a', database, collection⟩

/-- Connections are opened alike but for the address. -/
inductive Connection.Alike (u v : String) : Connection → Connection → Prop
  | intro {a a' : Value} (h : AddressAlike u v a a') (timeout : Value) (encrypted : Bool) :
      Alike u v ⟨a, timeout, encrypted⟩ ⟨a', timeout, encrypted⟩

/-- The calls are the same but for the address that a connection is opened with. -/
inductive Call.Alike (u v : String) : Call → Call → Prop
  | same (c : Call) : Alike u v c c
  | connect {o o' : Connection} (h : o.Alike u v o') : Alike u v (.connect o) (.connect o')

/-- The events are calls that are alike, or the same line. -/
inductive Event.Alike (u v : String) : Event → Event → Prop
  | call {c c' : Call} (h : c.Alike u v c') : Alike u v (.call c) (.call c')
  | log (line : LogLine) : Alike u v (.log line) (.log line)

/-- The client does not go by the address: from states that are related it answers the same to calls
that are the same but for the address, and its states stay related. -/
def Client.Blind (u v : String) (R : σ → σ → Prop) (client : Client σ) : Prop :=
  ∀ c c', c.Alike u v c' → ∀ s s', R s s' →
    (client c s).1 = (client c' s').1 ∧ R (client c s).2 (client c' s').2

/-! ### Targets -/

namespace Target.Alike

variable {t t' : Target} (huv : Interchangeable u v)

include huv in
/-- The same parts are missing. -/
theorem missing (h : t.Alike u v t') : t.missing = t'.missing := by
  cases h with
  | intro h database collection =>
      simp only [Target.missing, List.filter_cons, h.truth huv.left huv.right]
      split <;> rfl

include huv in
/-- Both are complete, or neither is. -/
theorem isComplete (h : t.Alike u v t') : t.isComplete = t'.isComplete := by
  cases h with
  | intro h database collection => simp only [Target.isComplete, h.truth huv.left huv.right]

/-- Both are called the same in the log, as the address is no part of that. -/
theorem label (h : t.Alike u v t') : t.label = t'.label := by
  cases h
  rfl

end Target.Alike

section Operations

variable {access : Access σ} {t t' : Target} {client : Client σ}

/-- Addresses that are interchangeable say the same of encryption. -/
theorem encrypted_eq (huv : Interchangeable u v) {a a' : Value} (h : AddressAlike u v a a') :
    encrypted a = encrypted a' := by
  cases h with
  | same => rfl
  | address =>
      obtain ⟨b, hu, hv⟩ := huv.encrypted
      exact hu.trans hv.symm

/-- The connections are alike, or asking for them fails with the same fault. -/
theorem connection_alike (huv : Interchangeable u v) (h : t.Alike u v t') :
    ResultsAlike (Connection.Alike u v) (connection access t) (connection access t') := by
  unfold connection
  rw [h.isComplete huv, h.missing huv]
  split
  · cases h with
    | intro h database collection =>
        refine (ResultsAlike.of_eq (encrypted_eq huv h)).bind ?_
        rintro b _ rfl
        exact .ok (.intro h _ b)
  · exact .error _

/-! ### Calls -/

/-- A client that is blind to the address answers calls alike that differ in it. -/
theorem twin_perform (hclient : client.Blind u v R) {c c' : Call} (h : c.Alike u v c') :
    Act.Twin (Event.Alike u v) R Eq (perform client c) (perform client c') :=
  (Act.twin_note (.call h)).bind_eq fun _ => Act.twin_ask (hclient c c' h)

/-- A call that is waited for is answered alike. -/
theorem twin_performAwaited (hclient : client.Blind u v R) (c : Call) :
    Act.Twin (Event.Alike u v) R Eq (performAwaited client c) (performAwaited client c) := by
  refine (twin_perform hclient (.same c)).bind_eq fun reply => ?_
  cases reply with
  | waiting ticket => exact twin_perform hclient (.same _)
  | done => exact Act.twin_pure rfl
  | inserted n => exact Act.twin_pure rfl
  | found documents => exact Act.twin_pure rfl

/-- What is done alike before a connection is closed is done alike with the closing. -/
theorem twin_closing (hclient : client.Blind u v R) {A : α → α → Prop} {m m' : Act Event σ α}
    (hm : Act.Twin (Event.Alike u v) R A m m') :
    Act.Twin (Event.Alike u v) R A (closing client m) (closing client m') :=
  hm.andFinally ((twin_perform hclient (.same .close)).bind_eq fun _ => Act.twin_pure rfl)

variable (huv : Interchangeable u v) (hclient : access.client.Blind u v R) (h : t.Alike u v t')

include huv hclient h in
/-- Both are connected to, or refused with the same fault. -/
theorem twin_connect :
    Act.Twin (Event.Alike u v) R Eq (connect access t) (connect access t') :=
  (Act.twin_ofExcept (connection_alike huv h)).bind fun _ _ ho =>
    (twin_perform hclient (.connect ho)).bind_eq fun _ => Act.twin_pure rfl

/-! ### Inserting -/

/-- The line about an insert does not show the address. -/
theorem insertedLine_eq (h : t.Alike u v t') (n : Nat) :
    insertedLine t n = insertedLine t' n := by
  unfold insertedLine
  rw [h.label]

/-- An insert that was answered ends alike. -/
theorem twin_endInsert (hclient : client.Blind u v R) (h : t.Alike u v t')
    (documents : List Document) (outcome : Except Fault Reply) :
    Act.Twin (Event.Alike u v) R Eq (endInsert client t documents outcome)
      (endInsert client t' documents outcome) := by
  refine twin_closing hclient ?_
  refine (Act.twin_ofExcept_eq rfl).bind_eq fun reply => ?_
  refine (Act.twin_ofExcept_eq (insertedLine_eq h _)).bind_eq fun line => ?_
  exact (Act.twin_note (.log line)).bind_eq fun _ => Act.twin_pure rfl

include huv hclient h in
/-- An insert is begun alike. -/
theorem twin_beginInsert (documents : List Document) :
    Act.Twin (Event.Alike u v) R Eq (beginInsert access t documents)
      (beginInsert access t' documents) := by
  refine (twin_connect huv hclient h).bind_eq fun _ => ?_
  have hasked : Act.Twin (Event.Alike u v) R Eq
      (do
        let _ ← perform access.client (.select t.database t.collection)
        perform access.client (.insert t.database t.collection documents))
      (do
        let _ ← perform access.client (.select t'.database t'.collection)
        perform access.client (.insert t'.database t'.collection documents)) := by
    cases h
    exact (twin_perform hclient (.same _)).bind_eq fun _ => twin_perform hclient (.same _)
  refine hasked.attempt_eq.bind_eq fun outcome => ?_
  have hends : Act.Twin (Event.Alike u v) R Eq
      (do return Progress.ended (← endInsert access.client t documents outcome))
      (do return Progress.ended (← endInsert access.client t' documents outcome)) :=
    (twin_endInsert hclient h documents outcome).bind_eq fun _ => Act.twin_pure rfl
  cases outcome with
  | error f => exact hends
  | ok reply =>
      cases reply with
      | waiting ticket => exact Act.twin_pure rfl
      | done => exact hends
      | inserted n => exact hends
      | found found => exact hends

include huv hclient h in
/-- **Inserting.**  An insert does not tell which address it is. -/
theorem twin_insert (documents : List Document) :
    Act.Twin (Event.Alike u v) R Eq (insert access t documents) (insert access t' documents) := by
  refine (twin_beginInsert huv hclient h documents).bind_eq fun progress => ?_
  cases progress with
  | ended reply => exact Act.twin_pure rfl
  | waiting ticket =>
      exact (twin_perform hclient (.same _)).attempt_eq.bind_eq fun outcome =>
        twin_endInsert hclient h documents outcome

/-! ### Finding -/

include huv hclient h in
/-- **Finding.**  A search does not tell which address it is. -/
theorem twin_find (q : Query) :
    Act.Twin (Event.Alike u v) R Eq (find access t q) (find access t' q) := by
  refine (twin_connect huv hclient h).bind_eq fun _ => twin_closing hclient ?_
  cases h
  refine (twin_perform hclient (.same _)).bind_eq fun _ => ?_
  refine (twin_perform hclient (.same _)).bind_eq fun _ => ?_
  refine (Act.twin_ofExcept_eq rfl).bind_eq fun pairs => ?_
  dsimp only
  split
  on_goal 1 => refine (twin_perform hclient (.same _)).bind_eq fun _ => ?_
  -- Sorted or not, what is left to do is the same.
  all_goals
    refine (twin_perform hclient (.same _)).bind_eq fun _ => ?_
    refine (twin_perform hclient (.same _)).bind_eq fun _ => ?_
    refine (twin_performAwaited hclient _).bind_eq fun reply => ?_
    cases reply <;> exact Act.twin_pure rfl

end Operations

/-! ### Sinks -/

/-- The sinks are the same but for the address, with clients in related states. -/
inductive Sink.Alike (u v : String) (R : σ → σ → Prop) : Sink σ → Sink σ → Prop
  | intro {t t' : Target} (ht : t.Alike u v t') {c c' : σ} (hc : R c c') (tasks : List Task)
      (pending : List Nat) (queue : List Job) :
      Alike u v R ⟨t, c, tasks, pending, queue⟩ ⟨t', c', tasks, pending, queue⟩

section Sinks

variable {access : Access σ} {t t' : Target} (huv : Interchangeable u v)
  (hclient : access.client.Blind u v R)

include huv hclient in
/-- A task is started alike. -/
theorem twin_start (h : t.Alike u v t') (task : Task) :
    Act.Twin (Event.Alike u v) R Eq (task.start access t) (task.start access t') := by
  unfold Task.start
  split
  · exact Act.twin_pure rfl
  · exact (twin_beginInsert huv hclient h _).attempt_eq.bind_eq fun _ => Act.twin_pure rfl

include hclient in
/-- A task that waits goes on alike. -/
theorem twin_resume (h : t.Alike u v t') (task : Task) (ticket : Nat) :
    Act.Twin (Event.Alike u v) R Eq (task.resume access t ticket)
      (task.resume access t' ticket) := by
  unfold Task.resume
  split
  · exact (twin_perform hclient (.same _)).attempt_eq.bind_eq fun _ => Act.twin_pure rfl
  · refine (twin_perform hclient (.same _)).attempt_eq.bind_eq fun outcome => ?_
    exact (twin_endInsert hclient h _ outcome).attempt_eq.bind_eq fun _ => Act.twin_pure rfl

/-- The line about the end of a task does not show the address. -/
theorem line?_eq (h : t.Alike u v t') (e : Ending) : e.line? t = e.line? t' := by
  cases e with
  | failed f =>
      unfold Ending.line? failedLine
      rw [h.label]
  | inserted => rfl
  | cancelled => rfl

namespace Sink

/-- What is done alike with the clients is done alike in the sinks that have them. -/
theorem twin_onClient {A : α → α → Prop} {m m' : Act Event σ α}
    (hm : Act.Twin (Event.Alike u v) R A m m') :
    Act.Twin (Event.Alike u v) (Alike u v R) A (onClient m) (onClient m') := by
  refine hm.onPart ?_ ?_
  · rintro _ _ ⟨-, hc⟩
    exact hc
  · rintro c c' _ _ hc ⟨ht, -⟩
    exact .intro ht hc _ _ _

/-- A change that does not look at the target keeps sinks alike. -/
theorem twin_workOn (i : Nat) {work work' : Act Event σ Stage}
    (h : Act.Twin (Event.Alike u v) R Eq work work') :
    Act.Twin (Event.Alike u v) (Alike u v R) Eq (workOn i work) (workOn i work') := by
  refine (twin_onClient h).bind_eq fun stage => Act.twin_modify ?_
  rintro _ _ ⟨ht, hc⟩
  exact .intro ht hc _ _ _

/-- The end of a task is reported alike. -/
theorem twin_reportTask (i : Nat) (e : Ending) :
    Act.Twin (Event.Alike u v) (Alike u v R) Eq (reportTask i e) (reportTask i e) := by
  refine (Act.twin_modify ?_).bind_eq fun _ => Act.Twin.bind Act.twin_get ?_
  · rintro _ _ ⟨ht, hc⟩
    exact .intro ht hc _ _ _
  · rintro _ _ ⟨ht, -⟩
    dsimp only
    rw [line?_eq ht]
    split
    · exact Act.twin_note (.log _)
    · exact Act.twin_pure rfl

/-- A batch is submitted alike. -/
theorem twin_submit (running : Bool) (documents : List Document) :
    Act.Twin (Event.Alike u v) (Alike u v R) Eq (submit running documents)
      (submit running documents) := by
  have hadded : Act.Twin (Event.Alike u v) (Alike u v R) Eq
      (submit true documents) (submit true documents) := by
    refine Act.Twin.bind Act.twin_get ?_
    rintro _ _ ⟨-, -⟩
    refine (Act.twin_modify ?_).bind_eq fun _ => Act.twin_pure rfl
    rintro _ _ ⟨ht, hc⟩
    exact .intro ht hc _ _ _
  cases running with
  | true => exact hadded
  | false => exact (Act.twin_fail (A := Eq) _).bind_eq fun _ => hadded

include huv hclient in
/-- A job is done alike. -/
theorem twin_runJob (j : Job) :
    Act.Twin (Event.Alike u v) (Alike u v R) Eq (runJob access j) (runJob access j) := by
  refine Act.Twin.bind Act.twin_get ?_
  rintro _ _ ⟨ht, -, tasks⟩
  dsimp only
  split
  · exact Act.twin_pure rfl
  · split
    · exact twin_workOn _ (twin_start huv hclient ht _)
    · exact twin_workOn _ (twin_resume hclient ht _ _)
    · exact twin_reportTask _ _
    · exact Act.twin_pure rfl

include huv hclient in
/-- A job that is queued is done alike. -/
theorem twin_runQueued (j : Job) :
    Act.Twin (Event.Alike u v) (Alike u v R) Eq (runQueued access j) (runQueued access j) := by
  refine (Act.twin_modify ?_).bind_eq fun _ => twin_runJob huv hclient j
  rintro _ _ ⟨ht, hc⟩
  exact .intro ht hc _ _ _

/-- A job is queued alike. -/
theorem twin_enqueue (j : Job) :
    Act.Twin (Event.Alike u v) (Alike u v R) Eq (Act.modify (enqueue j))
      (Act.modify (enqueue j)) := by
  refine Act.twin_modify ?_
  rintro _ _ ⟨ht, hc⟩
  exact .intro ht hc _ _ _

/-- A task is asked alike to be cancelled. -/
theorem twin_cancel (i : Nat) :
    Act.Twin (Event.Alike u v) (Alike u v R) Eq (cancel i) (cancel i) := by
  refine Act.Twin.bind Act.twin_get ?_
  rintro _ _ ⟨-, -, tasks, pending, queue⟩
  dsimp only
  split
  · exact Act.twin_pure rfl
  · split
    · exact Act.twin_pure rfl
    · refine (Act.twin_modify ?_).bind_eq fun _ => ?_
      · rintro _ _ ⟨ht, hc⟩
        exact .intro ht hc _ _ _
      · split
        · split
          · exact (twin_enqueue _).bind_eq fun _ => Act.twin_pure rfl
          · exact Act.twin_pure rfl
        · exact Act.twin_pure rfl

include huv hclient in
/-- An insert that is not left to a task is done alike. -/
theorem twin_insertNow (documents : List Document) :
    Act.Twin (Event.Alike u v) (Alike u v R) Eq (insertNow access documents)
      (insertNow access documents) := by
  refine Act.Twin.bind Act.twin_get ?_
  rintro _ _ ⟨ht, -⟩
  exact twin_onClient (twin_insert huv hclient ht documents)

include huv hclient in
/-- A search is done alike. -/
theorem twin_query (q : Query) :
    Act.Twin (Event.Alike u v) (Alike u v R) Eq (query access q) (query access q) := by
  refine Act.Twin.bind Act.twin_get ?_
  rintro _ _ ⟨ht, -⟩
  exact twin_onClient (twin_find huv hclient ht q)

end Sink

/-! ### Turns -/

/-- The loops are the same but for the address, with clients in related states. -/
inductive Loop.Alike (u v : String) (R : σ → σ → Prop) : Loop σ → Loop σ → Prop
  | intro {s s' : Sink σ} (h : s.Alike u v R s') (drains : List Drain) :
      Alike u v R ⟨s, drains⟩ ⟨s', drains⟩

namespace Turn

/-- The same turns are possible. -/
theorem isPossible_eq {l l' : Loop σ} (h : l.Alike u v R l') (turn : Turn) :
    turn.isPossible l = turn.isPossible l' := by
  obtain ⟨⟨ht, hc⟩⟩ := h
  cases turn <;> rfl

include huv hclient in
/-- **Turns.**  A turn of the event loop does not tell which address it is. -/
theorem twin_take (turn : Turn) :
    Act.Twin (Event.Alike u v) (Loop.Alike u v R) Eq (turn.take access) (turn.take access) := by
  have hwork : Act.Twin (Event.Alike u v) (Sink.Alike u v R) Eq (turn.work access)
      (turn.work access) := by
    cases turn with
    | submit documents => exact (Sink.twin_submit true documents).bind_eq fun _ => Act.twin_pure rfl
    | job j => exact Sink.twin_runQueued huv hclient j
    | answer i => exact Sink.twin_enqueue _
    | cancel i => exact (Sink.twin_cancel i).bind_eq fun _ => Act.twin_pure rfl
    | drain => exact Act.twin_pure rfl
    | wake n => exact Act.twin_pure rfl
  refine (hwork.onPart ?_ ?_).bind_eq fun _ => Act.twin_modify ?_
  · rintro _ _ ⟨h, -⟩
    exact h
  · rintro s s' _ _ hs ⟨-, drains⟩
    exact .intro hs drains
  · rintro _ _ ⟨⟨ht, hc⟩⟩
    cases turn <;> exact .intro (.intro ht hc _ _ _) _

end Turn

end Sinks

end Store

end RequestLog
