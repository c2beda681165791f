import RequestLog.Proofs.Store.Exchanges

/-!
# What is opened is closed

An operation on the store opens a connection at most, and closes it as its last word to the store.
`Brackets` tells all ways that an operation may go: it may not come to open the connection, the
store may refuse it, or the connection is opened, worked with, and closed. The work with the open
connection ends with the store's answer, or with the first fault that it hears, or with a fault of
its own (`Works`). An answer may be any fault, such as a cancellation that ends a call. The main
statements are `does_insert` and `does_find`.
-/

namespace RequestLog.Store

variable {σ α β : Type}

/-! ### Working with an open connection -/

/-- The exchange neither opens a connection nor closes one, and it did not fail. -/
def Exchange.IsPassed (x : Exchange) : Prop := x.call.isInner ∧ ∃ reply, x.answer = .ok reply

/-- The reply to a call answers a request, where other exchanges went before. Either the call is the
request itself and its answer did not have to be waited for, or it waits with the ticket that the
request was given. -/
inductive Answers (request : Call) (before : List Exchange) : Call → Reply → Prop
  | atOnce {reply : Reply} (h : ∀ ticket, reply ≠ .waiting ticket) :
      Answers request before request reply
  | awaited {ticket : Nat} {reply : Reply} (h : ⟨request, .ok (.waiting ticket)⟩ ∈ before) :
      Answers request before (.await ticket) reply

/-- What was exchanged before makes no difference to the answer. -/
theorem Answers.append {request c : Call} {xs : List Exchange} {reply : Reply}
    (h : Answers request xs c reply) (before : List Exchange) :
    Answers request (before ++ xs) c reply := by
  cases h with
  | atOnce h => exact .atOnce h
  | awaited h => exact .awaited (List.mem_append_right before h)

/-- How work with an open connection may end: with what the store answers to a request, with the
fault of a call, which is the last one then, or with a fault of its own. -/
inductive Works (own : Fault → Prop) (request : Call) (value : Reply → α) :
    List Exchange → Except Fault α → Prop
  | answered {xs : List Exchange} {c : Call} {reply : Reply} (hxs : ∀ x ∈ xs, x.IsPassed)
      (hinner : c.isInner) (hanswers : Answers request xs c reply) :
      Works own request value (xs ++ [⟨c, .ok reply⟩]) (.ok (value reply))
  | failed {xs : List Exchange} {c : Call} {f : Fault} (hxs : ∀ x ∈ xs, x.IsPassed)
      (hinner : c.isInner) : Works own request value (xs ++ [⟨c, .error f⟩]) (.error f)
  | own {xs : List Exchange} {f : Fault} (hxs : ∀ x ∈ xs, x.IsPassed) (hown : own f) :
      Works own request value xs (.error f)

/-- One inner call that was answered has passed. -/
theorem isPassed_singleton {c : Call} (hinner : c.isInner) (reply : Reply) :
    ∀ x ∈ [(⟨c, .ok reply⟩ : Exchange)], x.IsPassed := by
  intro x hx
  rw [List.mem_singleton.mp hx]
  exact ⟨hinner, reply, rfl⟩

namespace Works

variable {own : Fault → Prop} {request : Call} {value : Reply → α} {xs : List Exchange}
  {r : Except Fault α}

/-- The store said something before. -/
theorem append (h : Works own request value xs r) {before : List Exchange}
    (hbefore : ∀ x ∈ before, x.IsPassed) : Works own request value (before ++ xs) r := by
  have hall : ∀ {xs : List Exchange}, (∀ x ∈ xs, x.IsPassed) → ∀ x ∈ before ++ xs, x.IsPassed :=
    fun hxs => List.forall_mem_append.mpr ⟨hbefore, hxs⟩
  cases h with
  | answered hxs hinner hanswers =>
      rw [← List.append_assoc]
      exact .answered (hall hxs) hinner (hanswers.append before)
  | failed hxs hinner =>
      rw [← List.append_assoc]
      exact .failed (hall hxs) hinner
  | own hxs hown => exact .own (hall hxs) hown

/-- Work that came to a value heard of no fault. -/
theorem isPassed {a : α} (h : Works own request value xs (.ok a)) : ∀ x ∈ xs, x.IsPassed := by
  cases h with
  | answered hxs hinner hanswers =>
      exact List.forall_mem_append.mpr ⟨hxs, isPassed_singleton hinner _⟩

/-- No connection is opened or closed. -/
theorem isInner (h : Works own request value xs r) : ∀ x ∈ xs, x.call.isInner := by
  cases h with
  | answered hxs hinner hanswers =>
      exact List.forall_mem_append.mpr ⟨fun x hx => (hxs x hx).1, by simpa using hinner⟩
  | failed hxs hinner =>
      exact List.forall_mem_append.mpr ⟨fun x hx => (hxs x hx).1, by simpa using hinner⟩
  | own hxs hown => exact fun x hx => (hxs x hx).1

end Works

section Work

variable {client : Client σ} {own : Fault → Prop} {request : Call} {value : Reply → α}

/-- A call that opens or closes no connection, and then more work. -/
theorem Does.works_perform {c : Call} {k : Reply → Act Event σ α} (hinner : c.isInner)
    (hk : ∀ reply, Does client (Works own request value) (k reply)) :
    Does client (Works own request value) (Store.perform client c >>= k) := by
  refine Does.bind (Does.perform (p := fun xs r => xs = [⟨c, r⟩]) fun _ => rfl) ?_ ?_
  · rintro xs f rfl
    exact .failed (List.forall_mem_nil _) hinner
  · rintro xs reply rfl
    exact (hk reply).mono fun ys r h => h.append (isPassed_singleton hinner reply)

/-- What can be found out without the store, and then more work. -/
theorem Does.works_ofExcept {r : Except Fault β} {k : β → Act Event σ α}
    (hown : ∀ f, r = .error f → own f) (hk : ∀ a, Does client (Works own request value) (k a)) :
    Does client (Works own request value) (Act.ofExcept r >>= k) := by
  refine Does.bind (Does.ofExcept (p := fun xs r' => xs = [] ∧ r' = r) ⟨rfl, rfl⟩) ?_ ?_
  · rintro xs f ⟨rfl, hf⟩
    exact .own (by simp) (hown f hf.symm)
  · rintro xs a ⟨rfl, -⟩
    exact hk a

/-- A request that is answered at once or after a while. -/
theorem Does.works_awaited (hinner : request.isInner) :
    Does client (Works own request id) (performAwaited client request) := by
  refine Does.bind (Does.perform (p := fun xs r => xs = [⟨request, r⟩]) fun _ => rfl) ?_ ?_
  · rintro xs f rfl
    exact .failed (List.forall_mem_nil _) hinner
  · rintro xs reply rfl
    cases reply with
    | waiting ticket =>
        refine Does.perform fun answer => ?_
        cases answer with
        | error f => exact .failed (isPassed_singleton hinner _) rfl
        | ok reply => exact .answered (isPassed_singleton hinner _) rfl (.awaited (by simp))
    | _ => exact Does.pure (.answered (List.forall_mem_nil _) hinner (.atOnce (by simp)))

/-- What the store replies, as a value. -/
theorem Does.works_value {m : Act Event σ Reply} {k : Reply → Act Event σ α}
    (h : Does client (Works own request id) m) (hk : ∀ reply, k reply = Pure.pure (value reply)) :
    Does client (Works own request value) (m >>= k) := by
  refine Does.bind h ?_ ?_
  · rintro xs f hwork
    cases hwork with
    | failed hxs hinner => exact .failed hxs hinner
    | own hxs hown => exact .own hxs hown
  · intro xs reply hwork
    rw [hk]
    refine Does.pure ?_
    rw [List.append_nil]
    cases hwork with
    | answered hxs hinner hanswers => exact .answered hxs hinner hanswers

end Work

/-! ### Brackets -/

/-- How an operation may go: it does not come to open the connection, or the store refuses it, or
the connection is opened, worked with, and closed. What the work came to is what the operation comes
to, if the connection can be closed. -/
inductive Brackets (opening : Except Fault Connection)
    (work : List Exchange → Except Fault α → Prop) : List Exchange → Except Fault α → Prop
  | unopened {f : Fault} (h : opening = .error f) : Brackets opening work [] (.error f)
  | refused {o : Connection} {f : Fault} (h : opening = .ok o) :
      Brackets opening work [⟨.connect o, .error f⟩] (.error f)
  | closed {o : Connection} {reply : Reply} {inner : List Exchange} {r : Except Fault α}
      {answer : Except Fault Reply} (h : opening = .ok o) (hwork : work inner r) :
      Brackets opening work (⟨.connect o, .ok reply⟩ :: inner ++ [⟨.close, answer⟩])
        (answer >>= fun _ => r)

/-- The connection has been opened and not been closed yet, and a request was given a ticket. -/
inductive Opened (opening : Except Fault Connection) (request : Call) (ticket : Nat) :
    List Exchange → Prop
  | begun {o : Connection} {reply : Reply} {inner : List Exchange} (h : opening = .ok o)
      (hinner : ∀ x ∈ inner, x.IsPassed) (hasked : ⟨request, .ok (.waiting ticket)⟩ ∈ inner) :
      Opened opening request ticket (⟨.connect o, .ok reply⟩ :: inner)

/-- Work inside of a connection that makes inner calls alone is a bracket. -/
theorem Brackets.isBracket {opening : Except Fault Connection}
    {work : List Exchange → Except Fault α → Prop} {xs : List Exchange} {r : Except Fault α}
    (h : Brackets opening work xs r)
    (hwork : ∀ inner r, work inner r → ∀ x ∈ inner, x.call.isInner) : IsBracket xs := by
  cases h with
  | unopened h => exact ⟨Nat.zero_le 1, rfl, fun h => by cases h⟩
  | refused h => exact ⟨Nat.le_refl 1, rfl, fun h => by cases h⟩
  | closed h hinner => exact isBracket_closed (hwork _ _ hinner) _ _ _

/-! ### Inserting -/

/-- The call that asks for documents to be inserted. -/
def Target.insertion (t : Target) (documents : List Document) : Call :=
  .insert t.database t.collection documents

/-- How an insert may go with an open connection. It asks for its documents to be inserted, and
comes to the store's reply. Of itself it fails only if it cannot tell where it has inserted. -/
def InsertWorks (t : Target) (documents : List Document) :
    List Exchange → Except Fault Reply → Prop :=
  Works (fun f => insertedLine t documents.length = .error f) (t.insertion documents) id

/-- How an insert may go. -/
def InsertBrackets (access : Access σ) (t : Target) (documents : List Document) :
    List Exchange → Except Fault Reply → Prop :=
  Brackets (connection access t) (InsertWorks t documents)

/-- How an insert may begin: it has to wait with its connection open, or it goes to its end. -/
inductive Begins (access : Access σ) (t : Target) (documents : List Document) :
    List Exchange → Except Fault Progress → Prop
  | waits {xs : List Exchange} {ticket : Nat}
      (h : Opened (connection access t) (t.insertion documents) ticket xs) :
      Begins access t documents xs (.ok (.waiting ticket))
  | ends {xs : List Exchange} {reply : Reply}
      (h : InsertBrackets access t documents xs (.ok reply)) :
      Begins access t documents xs (.ok (.ended reply))
  | fails {xs : List Exchange} {f : Fault} (h : InsertBrackets access t documents xs (.error f)) :
      Begins access t documents xs (.error f)

section Insert

variable {access : Access σ} {t : Target} {documents : List Document}

/-- An insert whose outcome is there closes its connection. -/
theorem does_endInsert {o : Connection} {reply : Reply} {inner : List Exchange}
    {outcome : Except Fault Reply} (h : connection access t = .ok o)
    (hwork : InsertWorks t documents inner outcome) :
    Does access.client
      (fun xs r => InsertBrackets access t documents (⟨.connect o, .ok reply⟩ :: inner ++ xs) r)
      (endInsert access.client t documents outcome) := by
  refine (Does.closing (p := fun xs r => xs = [] ∧ InsertWorks t documents inner r) ?_).mono ?_
  · cases outcome with
    | error f => exact Does.ofExcept (r := .error f) ⟨rfl, hwork⟩
    | ok reply' =>
        rw [Act.ofExcept_ok_bind]
        cases hline : insertedLine t documents.length with
        | error f => exact Does.ofExcept (r := .error f) ⟨rfl, .own hwork.isPassed hline⟩
        | ok line =>
            rw [Act.ofExcept_ok_bind]
            refine Does.bind (Does.note (p := fun xs r => xs = [] ∧ r = .ok ()) ⟨rfl, rfl⟩) ?_ ?_
            · rintro xs f ⟨-, hf⟩
              cases hf
            · rintro xs - ⟨rfl, -⟩
              exact Does.pure ⟨rfl, hwork⟩
  · rintro xs r ⟨ys, r', answer, rfl, ⟨rfl, hr⟩, rfl⟩
    exact .closed h hr

/-- An insert that has to wait was given its ticket and has heard of no fault, and an answer that is
there is that to the insert. -/
theorem does_ask (client : Client σ) (t : Target) (documents : List Document) :
    Does client
      (fun xs r => (∀ ticket, r = .ok (.waiting ticket) →
          (∀ x ∈ xs, x.IsPassed) ∧ ⟨t.insertion documents, .ok (.waiting ticket)⟩ ∈ xs) ∧
        ((∀ ticket, r ≠ .ok (.waiting ticket)) → InsertWorks t documents xs r))
      (do
        let _ ← perform client (.select t.database t.collection)
        perform client (.insert t.database t.collection documents)) := by
  refine Does.bind (Does.perform (p := fun xs r => xs = [⟨.select t.database t.collection, r⟩])
    fun _ => rfl) ?_ ?_
  · rintro xs f rfl
    exact ⟨by simp, fun _ => .failed (List.forall_mem_nil _) rfl⟩
  · rintro xs reply rfl
    have hselected := isPassed_singleton (c := .select t.database t.collection) rfl reply
    refine Does.perform fun answer => ?_
    cases answer with
    | error f => exact ⟨by simp, fun _ => .failed hselected rfl⟩
    | ok reply' =>
        refine ⟨?_, ?_⟩
        · intro ticket hticket
          refine ⟨List.forall_mem_append.mpr ⟨hselected, isPassed_singleton rfl _⟩, ?_⟩
          rw [← hticket]
          exact List.mem_append_right _ (List.mem_singleton_self _)
        · intro hreply
          refine .answered hselected rfl (.atOnce fun ticket hticket => ?_)
          exact hreply ticket (by rw [hticket])

/-- An insert that is begun waits with its connection open, or closes it. -/
theorem does_beginInsert (access : Access σ) (t : Target) (documents : List Document) :
    Does access.client (Begins access t documents) (beginInsert access t documents) := by
  unfold beginInsert
  refine Does.connect (fun f h => .fails (.unopened h)) (fun o f h => .fails (.refused h)) ?_
  intro o reply h
  refine Does.bind ((does_ask access.client t documents).attempt
    (q := fun xs r => ∃ outcome, r = .ok outcome ∧
      (∀ ticket, outcome = .ok (.waiting ticket) →
          (∀ x ∈ xs, x.IsPassed) ∧ ⟨t.insertion documents, .ok (.waiting ticket)⟩ ∈ xs) ∧
        ((∀ ticket, outcome ≠ .ok (.waiting ticket)) → InsertWorks t documents xs outcome))
    fun xs r hr => ⟨r, rfl, hr⟩) ?_ ?_
  · rintro xs f ⟨outcome, hf, -⟩
    cases hf
  · rintro inner outcome ⟨_, houtcome, hwait, hwork⟩
    cases houtcome
    have hend : (∀ ticket, outcome ≠ .ok (.waiting ticket)) →
        Does access.client
          (fun xs r => Begins access t documents (⟨.connect o, .ok reply⟩ :: (inner ++ xs)) r)
          (do return .ended (← endInsert access.client t documents outcome)) := by
      intro hended
      refine Does.bind (does_endInsert h (hwork hended)) (fun xs f hf => .fails hf) ?_
      intro xs a ha
      refine Does.pure (.ends ?_)
      rw [List.append_nil]
      exact ha
    -- An answer that has to be waited for is no end; with any other one the connection is closed.
    split
    · rename_i ticket
      obtain ⟨hpassed, hasked⟩ := hwait ticket rfl
      refine Does.pure (.waits ?_)
      rw [List.append_nil]
      exact .begun h hpassed hasked
    · rename_i hended
      exact hend hended

/-- An insert that has waited goes to its end. -/
theorem does_resume {xs : List Exchange} {ticket : Nat}
    (h : Opened (connection access t) (t.insertion documents) ticket xs) :
    Does access.client (fun ys r => InsertBrackets access t documents (xs ++ ys) r) (do
      let outcome ← (perform access.client (.await ticket)).attempt
      endInsert access.client t documents outcome) := by
  obtain ⟨hopening, hpassed, hasked⟩ := h
  rename_i o reply inner
  refine Does.bind ((Does.perform (p := fun xs r => xs = [⟨.await ticket, r⟩]) fun _ => rfl).attempt
    (q := fun xs r => ∃ outcome, r = .ok outcome ∧ xs = [⟨.await ticket, outcome⟩])
    fun xs r hr => ⟨r, rfl, hr⟩) ?_ ?_
  · rintro xs f ⟨outcome, hf, -⟩
    cases hf
  · rintro xs outcome ⟨_, houtcome, rfl⟩
    cases houtcome
    have hwork : InsertWorks t documents (inner ++ [⟨.await ticket, outcome⟩]) outcome := by
      cases outcome with
      | error f => exact .failed hpassed rfl
      | ok reply' => exact .answered hpassed rfl (.awaited hasked)
    have hend : Does access.client
        (fun ys r => InsertBrackets access t documents
          (⟨.connect o, .ok reply⟩ :: (inner ++ [⟨.await ticket, outcome⟩]) ++ ys) r)
        (endInsert access.client t documents outcome) := does_endInsert hopening hwork
    simpa using hend

/-- **Inserting.**  Whatever the store answers, an insert closes the connection that it opened. -/
theorem does_insert (access : Access σ) (t : Target) (documents : List Document) :
    Does access.client (InsertBrackets access t documents) (insert access t documents) := by
  refine Does.bind (does_beginInsert access t documents) ?_ ?_
  · intro xs f hf
    cases hf with
    | fails h => exact h
  · intro xs progress hprogress
    cases hprogress with
    | waits h => exact does_resume h
    | ends h =>
        refine Does.pure ?_
        rw [List.append_nil]
        exact h

end Insert

/-! ### Finding -/

/-- The documents in a reply. -/
def Reply.documents : Reply → List Value
  | found documents => documents
  | _ => []

/-- How finding may go with an open connection. It fetches documents, and comes to those in the
store's reply. Of itself it fails only if it cannot make out the order. -/
def FindWorks (q : Query) : List Exchange → Except Fault (List Value) → Prop :=
  Works (fun f => sortPairs q.sort = .error f) (.fetch (q.limit.orElse usualLimit)) Reply.documents

/-- How finding may go. -/
def FindBrackets (access : Access σ) (t : Target) (q : Query) :
    List Exchange → Except Fault (List Value) → Prop :=
  Brackets (connection access t) (FindWorks q)

/-- **Finding.**  Whatever the store answers, finding closes the connection that it opened. -/
theorem does_find (access : Access σ) (t : Target) (q : Query) :
    Does access.client (FindBrackets access t q) (find access t q) := by
  unfold find
  refine Does.connect (fun f h => .unopened h) (fun o f h => .refused h) fun o reply h => ?_
  refine (Does.closing (p := FindWorks q) ?_).mono ?_
  · refine Does.works_perform rfl fun _ => Does.works_perform rfl fun _ => ?_
    refine Does.works_ofExcept (fun f hf => hf) fun pairs => ?_
    have hfetch : Does access.client (FindWorks q) (do
        let _ ← perform access.client (.skip (q.skip.orElse (.int 0)))
        let _ ← perform access.client (.limit (q.limit.orElse usualLimit))
        match ← performAwaited access.client (.fetch (q.limit.orElse usualLimit)) with
        | .found documents => return documents
        | _ => return []) := by
      refine Does.works_perform rfl fun _ => Does.works_perform rfl fun _ => ?_
      refine (Does.works_awaited rfl).works_value fun reply => ?_
      cases reply <;> rfl
    dsimp only
    split
    · exact Does.works_perform rfl fun _ => hfetch
    · exact hfetch
  · rintro xs r ⟨inner, r', answer, rfl, hwork, rfl⟩
    exact .closed h hwork

/-! ### Incomplete targets -/

/-- A target is incomplete if parts of it are missing. -/
theorem isComplete_eq_false_iff (t : Target) : t.isComplete = false ↔ t.missing ≠ [] := by
  simp only [Target.isComplete, Target.missing, ne_eq, List.map_eq_nil_iff, List.filter_eq_nil_iff]
  simp

/-- Nothing is said to the store if the target is incomplete. -/
theorem connection_of_missing (access : Access σ) {t : Target} (h : t.missing ≠ []) :
    connection access t = .error (.targetIncomplete t.missing) := by
  rw [connection, (isComplete_eq_false_iff t).mpr h]
  rfl

/-- Where there is no connection, nothing comes after it. -/
theorem connect_bind_of_error {access : Access σ} {t : Target} {f : Fault}
    (h : connection access t = .error f) (k : Act Event σ α) (s : σ) :
    (connect access t >>= fun _ => k) s = ⟨[], .error f, s⟩ := by
  have hconnect : connect access t s = ⟨[], .error f, s⟩ := by
    rw [connect, h]
    rfl
  exact Act.bind_of_error hconnect

/-- Where there is no connection, a search fails at once. -/
theorem find_of_error {access : Access σ} {t : Target} {f : Fault}
    (h : connection access t = .error f) (q : Query) (s : σ) :
    find access t q s = ⟨[], .error f, s⟩ :=
  connect_bind_of_error h _ s

/-- Where there is no connection, an insert is not begun. -/
theorem beginInsert_of_error {access : Access σ} {t : Target} {f : Fault}
    (h : connection access t = .error f) (documents : List Document) (s : σ) :
    beginInsert access t documents s = ⟨[], .error f, s⟩ :=
  connect_bind_of_error h _ s

/-- Where there is no connection, an insert fails at once. -/
theorem insert_of_error {access : Access σ} {t : Target} {f : Fault}
    (h : connection access t = .error f) (documents : List Document) (s : σ) :
    insert access t documents s = ⟨[], .error f, s⟩ :=
  Act.bind_of_error (beginInsert_of_error h documents s)

end RequestLog.Store
