import RequestLog.Proofs.Store.Bracket
import RequestLog.Proofs.Store.Standing

/-!
# Connections of a sink

Whoever has a sink submits batches, and inserts and looks for documents while its tasks go on. A
session is told by passages, one for each turn of the event loop and for each insert or query that
somebody waits for (`Session`). A task opens a connection at most and closes it before it ends,
cancelled or not (`Course.brackets`). In any passage as many connections are opened and not closed
as there are tasks that come to wait (`Balanced.opened_turn`), and from this it follows by induction
that all connections are closed but those of tasks that wait. The main statement is
`connections_of_session`.
-/

namespace RequestLog.Store

variable {σ : Type}

/-! ### The connection of a task -/

/-- The exchanges of an entry. -/
def Entry.exchanges (client : Client σ) (e : Entry σ) : List Exchange :=
  Store.exchanges client e.events e.client

/-- The exchanges of entries, one entry after another. -/
def said (client : Client σ) (entries : List (Entry σ)) : List Exchange :=
  entries.flatMap (·.exchanges client)

/-- One entry more adds what was said in it. -/
theorem said_concat (client : Client σ) (entries : List (Entry σ)) (e : Entry σ) :
    said client (entries ++ [e]) = said client entries ++ e.exchanges client := by
  simp [said]

/-- How the insert of a task may stand with the store. It has said nothing if it is scheduled or was
cancelled before it started; it has its connection open if it waits; and it has gone its way to the
end if the task has ended, or has just closed its connection if it was cancelled. -/
inductive Stage.Brackets (access : Access σ) (target : Target) (documents : List Document) :
    List Exchange → Stage → Prop
  | scheduled : Brackets access target documents [] .scheduled
  | withdrawn : Brackets access target documents [] (.ended .cancelled)
  | waiting {xs : List Exchange} {ticket : Nat}
      (h : Opened (connection access target) (target.insertion documents) ticket xs) :
      Brackets access target documents xs (.waiting ticket)
  | ended {xs : List Exchange} {r : Except Fault Reply}
      (h : InsertBrackets access target documents xs r) :
      Brackets access target documents xs (.ended (.of r))
  | cancelled {xs : List Exchange} {ticket : Nat}
      (h : Opened (connection access target) (target.insertion documents) ticket xs)
      (answer : Except Fault Reply) :
      Brackets access target documents (xs ++ [⟨.close, answer⟩]) (.ended (.closed answer))

namespace Task

variable (access : Access σ) (target : Target) (t : Task)

/-- The start of a task opens a connection and closes it, or waits with it open. -/
theorem brackets_start {c : σ} {stage : Stage}
    (hresult : (t.start access target c).result = .ok stage) :
    Stage.Brackets access target t.documents
      (exchanges access.client (t.start access target c).events c) stage := by
  rw [start_apply] at hresult ⊢
  split at hresult
  · rename_i hcancel
    cases hresult
    rw [if_pos hcancel]
    exact .withdrawn
  · rename_i hcancel
    rw [if_neg hcancel]
    obtain ⟨-, hbegins⟩ := does_beginInsert access target t.documents c
    cases hresult
    generalize (beginInsert access target t.documents c).result = r at hbegins
    cases hbegins with
    | waits h => exact .waiting h
    | ends h => exact .ended h
    | fails h => exact .ended h

/-- What was said before and since a task waited is a connection that is opened and closed, or still
waits. -/
theorem brackets_resume {xs : List Exchange} {ticket : Nat}
    (h : Opened (connection access target) (target.insertion t.documents) ticket xs)
    {c : σ} {stage : Stage}
    (hresult : (t.resume access target ticket c).result = .ok stage) :
    Stage.Brackets access target t.documents
      (xs ++ exchanges access.client (t.resume access target ticket c).events c) stage := by
  rw [resume_apply] at hresult ⊢
  split at hresult
  · rename_i hcancel
    cases hresult
    rw [if_pos hcancel]
    exact .cancelled h _
  · rename_i hcancel
    rw [if_neg hcancel]
    cases hresult
    exact .ended (does_resume h c).2

end Task

/-- **The connection of a task.**  By its course a task stands well with the store. -/
theorem Course.brackets {access : Access σ} {target : Target} {i : Nat} {own : List (Entry σ)}
    {t : Task} (h : Course access target i own t) :
    Stage.Brackets access target t.documents (said access.client own) t.stage := by
  induction h with
  | scheduled documents => exact .scheduled
  | cancel h ih => exact ih
  | @start own t h hstage c stage hresult ih =>
      rw [h.eq_nil_of_scheduled hstage, List.nil_append, said, List.flatMap_singleton]
      exact t.brackets_start access target hresult
  | @resume own t h ticket hstage c stage hresult ih =>
      rw [said_concat]
      rw [hstage] at ih
      generalize said access.client own = xs at ih ⊢
      -- The task waited before, so that its connection is open.
      cases ih with
      | waiting hopened => exact t.brackets_resume access target hopened hresult

/-! ### Sessions -/

/-- What is done in an event loop that has a sink: a turn is taken, or somebody inserts or looks for
documents and waits for it, which goes to its end before the next move. -/
inductive Move where
  | turn (turn : Turn)
  | insert (documents : List Document)
  | query (q : Query)

namespace Move

/-- A turn has to be possible. -/
def isPossible (l : Loop σ) : Move → Bool
  | turn t => t.isPossible l
  | insert _ | query _ => true

/-- Does what the move says. -/
def take (access : Access σ) : Move → Act Event (Loop σ) Unit
  | turn t => t.take access
  | insert documents => Act.onPart Loop.sink (fun s l => { l with sink := s }) do
      let _ ← Sink.insertNow access documents
  | query q => Act.onPart Loop.sink (fun s l => { l with sink := s }) do
      let _ ← Sink.query access q

end Move

/-- A move that was made, with the client's state before it and the events in it. -/
structure Passage (σ : Type) where
  move : Move
  client : σ
  events : List Event

/-- The passages are those of the moves that led from a new sink to here. -/
inductive Session (access : Access σ) (target : Target) : List (Passage σ) → Loop σ → Prop
  | new (client : σ) : Session access target [] ⟨{ target := target, client := client }, []⟩
  | move {passages : List (Passage σ)} {l : Loop σ} (h : Session access target passages l)
      (move : Move) (possible : move.isPossible l) :
      Session access target
        (passages ++ [⟨move, l.sink.client, (move.take access l).events⟩])
        (move.take access l).state

/-- Makes moves one after another, as long as each of them is possible: their passages, and the loop
after them. -/
def Loop.play (access : Access σ) (l : Loop σ) : List Move → Option (List (Passage σ) × Loop σ)
  | [] => some ([], l)
  | move :: rest =>
    if move.isPossible l then
      (play access (move.take access l).state rest).map fun later =>
        (⟨move, l.sink.client, (move.take access l).events⟩ :: later.1, later.2)
    else none

/-- What is played continues a session. -/
theorem Session.play {access : Access σ} {target : Target} {passages : List (Passage σ)}
    {l : Loop σ} (h : Session access target passages l) {moves : List Move}
    {more : List (Passage σ)} {l' : Loop σ} (hplay : l.play access moves = some (more, l')) :
    Session access target (passages ++ more) l' := by
  induction moves generalizing passages l more with
  | nil =>
      cases hplay
      rw [List.append_nil]
      exact h
  | cons move rest ih =>
      rw [Loop.play] at hplay
      split at hplay
      · rename_i possible
        obtain ⟨⟨later, l''⟩, hlater, heq⟩ := Option.map_eq_some_iff.mp hplay
        cases heq
        have hafter := ih (h.move move possible) hlater
        rw [List.append_assoc, List.singleton_append] at hafter
        exact hafter
      · cases hplay

/-- The exchanges of a passage. -/
def Passage.exchanges (client : Client σ) (p : Passage σ) : List Exchange :=
  Store.exchanges client p.events p.client

/-- The exchanges of all passages, one after another. -/
def heard (client : Client σ) (passages : List (Passage σ)) : List Exchange :=
  passages.flatMap (·.exchanges client)

/-- One passage more adds what was heard in it. -/
theorem heard_concat (client : Client σ) (passages : List (Passage σ)) (p : Passage σ) :
    heard client (passages ++ [p]) = heard client passages ++ p.exchanges client := by
  simp [heard]

/-- The entry of a passage that is a turn. -/
def Passage.entry? (p : Passage σ) : Option (Entry σ) :=
  match p.move with
  | .turn t => some ⟨t, p.client, p.events⟩
  | _ => none

/-- The entries of the turns among passages. -/
def entriesOf (passages : List (Passage σ)) : List (Entry σ) := passages.filterMap Passage.entry?

/-- One passage more adds its entry, if it is one of the loop. -/
theorem entriesOf_concat (passages : List (Passage σ)) (p : Passage σ) :
    entriesOf (passages ++ [p]) = entriesOf passages ++ p.entry?.toList :=
  Act.filterMap_concat ..

/-- An operation on the sink's target that is waited for works with the client alone. -/
theorem Move.waited_apply {α : Type} (operation : Target → Act Event σ α) (l : Loop σ) :
    Act.onPart Loop.sink (fun s l => { l with sink := s }) (do
        let _ ← (Act.get >>= fun s => Sink.onClient (operation s.target))) l =
      let o := operation l.sink.target l.sink.client
      ⟨o.events, o.result.map fun _ => (),
        { l with sink := { l.sink with client := o.state } }⟩ := by
  have hoperation : (Act.get >>= fun s => Sink.onClient (operation s.target)) l.sink =
      Sink.onClient (operation l.sink.target) l.sink := Act.bind_of_ok (Act.get_apply _)
  rw [Act.onPart_apply, Act.bind_pure_apply, hoperation, Sink.onClient, Act.onPart_apply]

/-- An insert that is not left to a task leaves the loop as it is but for the client. -/
theorem Move.take_insert (access : Access σ) (documents : List Document) (l : Loop σ) :
    (insert documents).take access l =
      let o := Store.insert access l.sink.target documents l.sink.client
      ⟨o.events, o.result.map fun _ => (),
        { l with sink := { l.sink with client := o.state } }⟩ :=
  waited_apply (fun t => Store.insert access t documents) l

/-- A search leaves the loop as it is but for the client. -/
theorem Move.take_query (access : Access σ) (q : Query) (l : Loop σ) :
    (query q).take access l =
      let o := find access l.sink.target q l.sink.client
      ⟨o.events, o.result.map fun _ => (),
        { l with sink := { l.sink with client := o.state } }⟩ :=
  waited_apply (fun t => find access t q) l

/-- How tasks stand does not depend on the client. -/
theorem Balanced.client {access : Access σ} {target : Target} {entries : List (Entry σ)}
    {s : Sink σ} (h : Balanced access target entries s) (c : σ) :
    Balanced access target entries { s with client := c } :=
  ⟨h.target_eq, h.documents, h.standing, h.idle, h.cancelled, h.pending⟩

/-- In a session all tasks stand well. -/
theorem Session.balanced {access : Access σ} {target : Target} {passages : List (Passage σ)}
    {l : Loop σ} (h : Session access target passages l) :
    Balanced access target (entriesOf passages) l.sink := by
  induction h with
  | new client => exact .new client
  | @move passages l h move possible ih =>
      rw [entriesOf_concat]
      cases move with
      | turn t =>
          obtain ⟨hresult, hbalanced⟩ := ih.turn possible
          rw [Move.take, t.take_apply access hresult]
          exact hbalanced
      | insert documents =>
          rw [Move.take_insert]
          simpa [Passage.entry?] using ih.client _
      | query q =>
          rw [Move.take_query]
          simpa [Passage.entry?] using ih.client _

/-! ### How many connections are open -/

/-- How many tasks wait. -/
def Sink.waitingCount (s : Sink σ) : Nat := s.tasks.countP Task.isWaiting

/-- How many connections an insert keeps open that is at a stage. -/
def Stage.held : Stage → Nat
  | waiting _ => 1
  | _ => 0

theorem Stage.held_scheduled : Stage.scheduled.held = 0 := rfl

/-- A task that waits holds one connection. -/
theorem Stage.held_waiting (ticket : Nat) : (Stage.waiting ticket).held = 1 := rfl

/-- A task that has ended holds none. -/
theorem Stage.held_ended (e : Ending) : (Stage.ended e).held = 0 := rfl

/-- What waits for its answer has opened one connection and closed none. -/
theorem Opened.opened_eq {opening : Except Fault Connection} {request : Call} {ticket : Nat}
    {xs : List Exchange} (h : Opened opening request ticket xs) :
    opened xs = 1 ∧ closed xs = 0 := by
  obtain ⟨hopening, hinner, -⟩ := h
  have hcalls := fun x hx => (hinner x hx).1
  exact ⟨opened_open hcalls _ _, closed_open hcalls _ _⟩

/-- An insert opens one connection at most and closes what it opens. -/
theorem InsertBrackets.isBracket {access : Access σ} {t : Target} {documents : List Document}
    {xs : List Exchange} {r : Except Fault Reply} (h : InsertBrackets access t documents xs r) :
    IsBracket xs :=
  Brackets.isBracket h fun _ _ hwork => Works.isInner hwork

/-- A search opens one connection at most and closes what it opens. -/
theorem FindBrackets.isBracket {access : Access σ} {t : Target} {q : Query}
    {xs : List Exchange} {r : Except Fault (List Value)} (h : FindBrackets access t q xs r) :
    IsBracket xs :=
  Brackets.isBracket h fun _ _ hwork => Works.isInner hwork

/-- What is opened is closed, or is held. -/
theorem Stage.Brackets.opened_eq {access : Access σ} {target : Target} {documents : List Document}
    {xs : List Exchange} {stage : Stage} (h : Stage.Brackets access target documents xs stage) :
    opened xs = closed xs + stage.held := by
  cases h with
  | scheduled => rfl
  | withdrawn => rfl
  | waiting h => rw [h.opened_eq.1, h.opened_eq.2, held]
  | ended h => exact h.isBracket.closed.symm
  | cancelled h answer =>
      rw [opened_append, closed_append, h.opened_eq.1, h.opened_eq.2]
      rfl

/-- A task that has ended does not wait. -/
theorem Task.isWaiting_of_isEnded (t : Task) (h : t.isEnded) : t.isWaiting = false := by
  unfold isEnded at h
  unfold isWaiting
  cases hstage : t.stage with
  | ended e => rfl
  | scheduled => rfl
  | waiting ticket =>
      rw [hstage] at h
      cases h

/-- A task holds a connection exactly if it waits. -/
theorem Task.held_stage (t : Task) : t.stage.held = if t.isWaiting then 1 else 0 := by
  unfold Task.isWaiting
  cases t.stage <;> rfl

/-- Where one task is another, the tasks that wait are counted accordingly. -/
theorem countP_set_task {tasks : List Task} {i : Nat} {t : Task} (ht : tasks[i]? = some t)
    (t' : Task) : (tasks.set i t').countP Task.isWaiting + t.stage.held =
      tasks.countP Task.isWaiting + t'.stage.held := by
  obtain ⟨hlt, rfl⟩ := List.getElem?_eq_some_iff.mp ht
  rw [List.countP_set hlt, Task.held_stage, Task.held_stage]
  cases hwaiting : tasks[i].isWaiting with
  | false => simp
  | true =>
      have hpos : 0 < tasks.countP Task.isWaiting :=
        List.countP_pos_iff.mpr ⟨_, List.getElem_mem hlt, hwaiting⟩
      simp only [if_true]
      omega

/-- A task that comes to a stage is counted as this stage says. -/
theorem Sink.waitingCount_advance {s : Sink σ} {i : Nat} {t : Task} (ht : s.tasks[i]? = some t)
    (stage : Stage) (c : σ) (queue : List Job) :
    (Sink.advance i stage { s with client := c, queue := queue }).waitingCount + t.stage.held =
      s.waitingCount + stage.held := by
  change (s.tasks.modify i _).countP Task.isWaiting + _ = _
  rw [modify_eq_set ht]
  exact countP_set_task ht { t with stage }

/-- Asking for a task to be cancelled does not change how many wait. -/
theorem Sink.waitingCount_cancel (s : Sink σ) (i : Nat) :
    (Sink.cancel i s).state.waitingCount = s.waitingCount := by
  rcases s.open_or_closed i with ⟨t, ht, hopen⟩ | hclosed
  · have hcount := countP_set_task ht { t with cancelRequested := true }
    rw [cancel_of_open ht hopen]
    change (s.tasks.modify i _).countP Task.isWaiting = _
    rw [modify_eq_set ht]
    exact Nat.add_right_cancel hcount
  · rw [cancel_of_closed hclosed]

namespace Balanced

variable {access : Access σ} {target : Target} {entries : List (Entry σ)} {s : Sink σ}

/-- A job opens a connection if its task comes to wait, and closes one if its task goes on. -/
theorem opened_job (h : Balanced access target entries s) {j : Job} (hj : j ∈ s.queue) :
    let o := Sink.runQueued access j s
    let xs := exchanges access.client o.events s.client
    opened xs + s.waitingCount = closed xs + o.state.waitingCount := by
  obtain ⟨i, hi⟩ : ∃ i, j.task = i := ⟨_, rfl⟩
  rw [← mem_jobsOf_task, hi] at hj
  cases ht : s.tasks[i]? with
  | none =>
      rw [(h.idle i ht).2] at hj
      cases hj
  | some t =>
      -- How the task stands tells which job can be queued for it.
      have hstanding := h.standing i t ht
      obtain rfl := h.target_eq
      generalize jobsFor i entries = own at hstanding
      generalize jobsOf i s.queue = jobs at hstanding hj
      cases hstanding with
      | scheduled hcourse hs =>
          obtain rfl := List.mem_singleton.mp hj
          obtain ⟨stage, hresult, -⟩ := Task.start_result access s.target t s.client
          have hopened := (t.brackets_start access s.target hresult).opened_eq
          rw [Sink.runQueued_start access ht hs hresult]
          have hcount := Sink.waitingCount_advance ht stage
            (t.start access s.target s.client).state (s.queue.erase (.start i))
          rw [hs, Stage.held_scheduled] at hcount
          dsimp only
          omega
      | waiting hcourse hs => cases hj
      | @resuming _ _ hcourse ticket hs =>
          obtain rfl := List.mem_singleton.mp hj
          obtain ⟨ending, hresult⟩ := Task.resume_result access s.target t ticket s.client
          have hbefore := hcourse.brackets
          rw [hs] at hbefore
          generalize said access.client own = before at hbefore
          cases hbefore with
          | waiting hopen =>
              have hopened := (t.brackets_resume access s.target hopen hresult).opened_eq
              rw [opened_append, closed_append, hopen.opened_eq.1, hopen.opened_eq.2] at hopened
              rw [Sink.runQueued_resume access ht hs hresult]
              have hcount := Sink.waitingCount_advance ht (.ended ending)
                (t.resume access s.target ticket s.client).state (s.queue.erase (.resume i))
              rw [hs, Stage.held_waiting, Stage.held_ended] at hcount
              rw [Stage.held_ended] at hopened
              dsimp only
              omega
      | @ended _ _ hcourse ending hs =>
          obtain rfl := List.mem_singleton.mp hj
          rw [Sink.runQueued_report access ht hs]
          cases ending.line? s.target <;> rfl
      | reported hcourse hs c => cases hj

/-- **One turn.**  As many connections are opened and not closed as tasks come to wait. -/
theorem opened_turn {l : Loop σ} (h : Balanced access target entries l.sink) {turn : Turn}
    (possible : turn.isPossible l) :
    let o := turn.work access l.sink
    let xs := exchanges access.client o.events l.sink.client
    opened xs + l.sink.waitingCount = closed xs + o.state.waitingCount := by
  cases turn with
  | submit documents =>
      change 0 + _ = 0 + List.countP Task.isWaiting (l.sink.tasks ++ [_])
      rw [List.countP_append]
      rfl
  | job j => exact h.opened_job (by simpa [Turn.isPossible] using possible)
  | answer i => rfl
  | cancel i =>
      rw [Turn.work_cancel]
      exact congrArg (0 + ·) (Sink.waitingCount_cancel l.sink i).symm
  | drain => rfl
  | wake n => rfl

end Balanced

/-- **One move.**  As many connections are opened and not closed as tasks come to wait; an insert or
a query that is waited for closes what it opened. -/
theorem Move.opened_take {access : Access σ} {target : Target} {entries : List (Entry σ)}
    {l : Loop σ} (h : Balanced access target entries l.sink) {move : Move}
    (possible : move.isPossible l) :
    let o := move.take access l
    let xs := exchanges access.client o.events l.sink.client
    opened xs + l.sink.waitingCount = closed xs + o.state.sink.waitingCount := by
  cases move with
  | turn t =>
      obtain ⟨hresult, -⟩ := h.turn possible
      rw [take, t.take_apply access hresult]
      exact h.opened_turn possible
  | insert documents =>
      have hbracket := (does_insert access l.sink.target documents l.sink.client).2.isBracket
      rw [take_insert]
      exact congrArg (· + l.sink.waitingCount) hbracket.closed.symm
  | query q =>
      have hbracket := (does_find access l.sink.target q l.sink.client).2.isBracket
      rw [take_query]
      exact congrArg (· + l.sink.waitingCount) hbracket.closed.symm

/-- **The run.**  In a session as many connections are open as tasks wait. -/
theorem Session.opened_eq {access : Access σ} {target : Target} {passages : List (Passage σ)}
    {l : Loop σ} (h : Session access target passages l) :
    opened (heard access.client passages) =
      closed (heard access.client passages) + l.sink.waitingCount := by
  induction h with
  | new client => rfl
  | @move passages l h move possible ih =>
      have hmove := Move.opened_take h.balanced possible
      rw [heard_concat, opened_append, closed_append, ih]
      dsimp only [Passage.exchanges] at hmove ⊢
      omega

/-! ### Connections -/

/-- What every single operation keeps to, whatever its target, its arguments and the store's
answers. It goes one of the ways of its kind, which opens one connection at most and closes what it
opened as its last word. If the target is incomplete nothing is said at all, and the fault names
what is missing. -/
structure Operations (access : Access σ) : Prop where
  insert : ∀ t documents s, let o := insert access t documents s
    let xs := exchanges access.client o.events s
    InsertBrackets access t documents xs o.result ∧ IsBracket xs
  find : ∀ t q s, let o := find access t q s
    let xs := exchanges access.client o.events s
    FindBrackets access t q xs o.result ∧ IsBracket xs
  incomplete : ∀ t : Target, t.missing ≠ [] → ∃ f : Fault, f.kind = .storeConfiguration ∧
    f.message = .ok ("persistence target is incomplete, missing: " ++
      ", ".intercalate t.missing) ∧
    ∀ s, (∀ documents, Store.insert access t documents s = ⟨[], .error f, s⟩) ∧
      ∀ q, Store.find access t q s = ⟨[], .error f, s⟩
  missing : ∀ t : Target, t.missing.Sublist ["url", "db", "collection"] ∧
    ("url" ∈ t.missing ↔ t.address.truth = false) ∧
    ("db" ∈ t.missing ↔ t.database.truth = false) ∧
    ("collection" ∈ t.missing ↔ t.collection.truth = false)

/-- What a session keeps to. Each insert and each query that was waited for went its way; each task
stands well with the store, so that it has closed its connection if it has ended; and the
connections that are open are those of the tasks that wait. -/
structure Connections (access : Access σ) (target : Target) (passages : List (Passage σ))
    (l : Loop σ) : Prop where
  inserts : ∀ p ∈ passages, ∀ documents, p.move = .insert documents →
    InsertBrackets access target documents (p.exchanges access.client)
      (insert access target documents p.client).result
  queries : ∀ p ∈ passages, ∀ q, p.move = .query q →
    FindBrackets access target q (p.exchanges access.client) (find access target q p.client).result
  tasks : ∀ i t, l.sink.tasks[i]? = some t →
    let xs := said access.client (jobsFor i (entriesOf passages))
    Stage.Brackets access target t.documents xs t.stage ∧ (t.isEnded → IsBracket xs)
  opened : opened (heard access.client passages) =
    closed (heard access.client passages) + l.sink.waitingCount

/-- Every operation of a store is a bracket, whatever fails in it. -/
theorem operations (access : Access σ) : Operations access where
  insert t documents s :=
    have h := (does_insert access t documents s).2
    ⟨h, h.isBracket⟩
  find t q s :=
    have h := (does_find access t q s).2
    ⟨h, h.isBracket⟩
  incomplete t h := by
    have hopening := connection_of_missing access h
    exact ⟨.targetIncomplete t.missing, rfl, rfl, fun s =>
      ⟨fun documents => insert_of_error hopening documents s, fun q => find_of_error hopening q s⟩⟩
  missing t := by
    refine ⟨List.filter_sublist.map _, ?_⟩
    simp [Target.missing]

/-- A task that has ended has closed the connection that it opened. -/
theorem Stage.Brackets.isBracket {access : Access σ} {target : Target}
    {documents : List Document} {xs : List Exchange} {e : Ending}
    (h : Stage.Brackets access target documents xs (.ended e)) : IsBracket xs := by
  cases h with
  | withdrawn => exact ⟨Nat.zero_le 1, rfl, fun h => by cases h⟩
  | ended h => exact h.isBracket
  | cancelled h answer =>
      obtain ⟨hopening, hinner, -⟩ := h
      exact isBracket_closed (fun x hx => (hinner x hx).1) _ _ _

/-- A report says nothing to the store. -/
theorem Standing.brackets {access : Access σ} {target : Target} {i : Nat} {own : List (Entry σ)}
    {t : Task} {jobs : List Job} (h : Standing access target i own t jobs) :
    Stage.Brackets access target t.documents (said access.client own) t.stage := by
  cases h with
  | scheduled h hs => exact h.brackets
  | waiting h hs => exact h.brackets
  | resuming h hs => exact h.brackets
  | ended h hs => exact h.brackets
  | @reported own _ h ending hs c =>
      have hsilent : Entry.exchanges access.client
          ⟨.job (.report i), c, ((ending.line? target).map .log).toList⟩ = [] := by
        cases ending.line? target <;> rfl
      rw [said_concat, hsilent, List.append_nil]
      exact h.brackets

/-- A passage is a move that was made with the sink of this target. -/
theorem Session.taken {access : Access σ} {target : Target} {passages : List (Passage σ)}
    {l : Loop σ} (h : Session access target passages l) :
    ∀ p ∈ passages, ∃ l' : Loop σ, l'.sink.target = target ∧ l'.sink.client = p.client ∧
      p.events = (p.move.take access l').events := by
  induction h with
  | new client => simp
  | @move passages l h move possible ih =>
      intro p hp
      rcases List.mem_append.mp hp with hp | hp
      · exact ih p hp
      · rw [List.mem_singleton.mp hp]
        exact ⟨l, h.balanced.target_eq, rfl, rfl⟩

/-- In every session connections are as they should be. -/
theorem Session.connections {access : Access σ} {target : Target} {passages : List (Passage σ)}
    {l : Loop σ} (h : Session access target passages l) :
    Connections access target passages l where
  inserts p hp documents hmove := by
    obtain ⟨l', rfl, hclient, hevents⟩ := h.taken p hp
    rw [hmove, Move.take_insert] at hevents
    rw [Passage.exchanges, hevents, ← hclient]
    exact (does_insert access _ documents _).2
  queries p hp q hmove := by
    obtain ⟨l', rfl, hclient, hevents⟩ := h.taken p hp
    rw [hmove, Move.take_query] at hevents
    rw [Passage.exchanges, hevents, ← hclient]
    exact (does_find access _ q _).2
  tasks i t ht := by
    have hbrackets := (h.balanced.standing i t ht).brackets
    refine ⟨hbrackets, fun hended => ?_⟩
    unfold Task.isEnded at hended
    split at hended
    · rename_i e hstage
      rw [hstage] at hbrackets
      exact hbrackets.isBracket
    · cases hended
  opened := h.opened_eq

/-- **Connections.**  Every operation on the store closes the connection that it opens, and when all
tasks of a session have ended every connection that was opened is closed. -/
theorem connections_of_session {access : Access σ} {target : Target}
    {passages : List (Passage σ)} {l : Loop σ} (h : Session access target passages l) :
    Operations access ∧ Connections access target passages l ∧
      ((∀ t ∈ l.sink.tasks, t.isEnded) →
        opened (heard access.client passages) = closed (heard access.client passages)) := by
  refine ⟨operations access, h.connections, ?_⟩
  intro hended
  have hwaiting : l.sink.waitingCount = 0 := by
    rw [Sink.waitingCount, List.countP_eq_zero]
    intro t ht
    simp [t.isWaiting_of_isEnded (hended t ht)]
  rw [h.opened_eq, hwaiting, Nat.add_zero]

/-- An insert that the store refuses, a query whose order is none, and a batch that is cancelled
while it waits for the store. -/
theorem connections_of_session_cancelling :
    let target : Target := ⟨.text "mongodb://host", .text "logs", .text "requests"⟩
    let access : Access Nat := ⟨fun call n =>
      match call with
      | .insert .. =>
        (if n = 0 then .error (.reported .connection "refused") else .ok (.waiting n), n + 1)
      | _ => (.ok .done, n), .int 5000⟩
    ∃ passages l, Session access target passages l ∧ Operations access ∧
      Connections access target passages l ∧ (∀ t ∈ l.sink.tasks, t.isEnded) ∧
      opened (heard access.client passages) = 3 ∧ closed (heard access.client passages) = 3 := by
  intro target access
  have hplay : (Loop.play access ⟨{ target := target, client := 0 }, []⟩
      [.insert [], .query { sort := .int 5 }, .turn (.submit []), .turn (.job (.start 0)),
        .turn (.cancel 0), .turn (.job (.resume 0))]).any (fun p =>
      p.2.sink.tasks.all Task.isEnded && opened (heard access.client p.1) == 3) = true := by
    decide +kernel
  obtain ⟨⟨passages, l⟩, hplay, htold⟩ := (Option.any_eq_true _ _).mp hplay
  have h : Session access target passages l := (Session.new 0).play hplay
  simp only [Bool.and_eq_true, beq_iff_eq, List.all_eq_true] at htold
  obtain ⟨hended, hopened⟩ := htold
  obtain ⟨hoperations, hconnections, hclosed⟩ := connections_of_session h
  exact ⟨passages, l, h, hoperations, hconnections, hended, hopened, (hclosed hended) ▸ hopened⟩

end RequestLog.Store
