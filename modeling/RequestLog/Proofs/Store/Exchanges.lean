import RequestLog.Proofs.Act
import RequestLog.Store.Client

/-!
# What is said to the store

What an act says to the store's client and what it hears are its exchanges. `Does` says of an act
that its exchanges and its result are of some kind, whatever the client answers; it is shown along
the parts of the act (`Does.bind`). Exchanges form a bracket if they open one connection at most and
close what they opened as their last word (`IsBracket`).
-/

namespace RequestLog.Store

variable {σ α β : Type}

/-! ### Exchanges -/

/-- A call on the store's client, and what it came to. -/
structure Exchange where
  call : Call
  answer : Except Fault Reply

/-- What the client answers to calls that are made one after another, and its state after them. -/
def Client.converse (client : Client σ) : List Call → σ → List Exchange × σ
  | [], s => ([], s)
  | c :: rest, s =>
    let later := converse client rest (client c s).2
    (⟨c, (client c s).1⟩ :: later.1, later.2)

/-- The exchanges in events, beginning with the client in some state. -/
def exchanges (client : Client σ) (events : List Event) (s : σ) : List Exchange :=
  (Client.converse client (events.filterMap Event.call?) s).1

/-- Calls after others are made with the client as those have left it. -/
theorem Client.converse_append (client : Client σ) (calls calls' : List Call) (s : σ) :
    Client.converse client (calls ++ calls') s =
      ((Client.converse client calls s).1 ++
          (Client.converse client calls' (Client.converse client calls s).2).1,
        (Client.converse client calls' (Client.converse client calls s).2).2) := by
  induction calls generalizing s with
  | nil => rfl
  | cons c rest ih => simp [Client.converse, ih]

/-- Whatever state the act begins in, its exchanges and its result are as `p` says, and the client's
state is the one to which these exchanges lead. -/
def Does (client : Client σ) (p : List Exchange → Except Fault α → Prop) (m : Act Event σ α) :
    Prop :=
  ∀ s, (m s).state = (Client.converse client ((m s).events.filterMap Event.call?) s).2 ∧
    p (exchanges client (m s).events s) (m s).result

namespace Does

variable {client : Client σ} {p : List Exchange → Except Fault α → Prop} {m : Act Event σ α}

/-- What is known of an act may be said more weakly. -/
theorem mono {q : List Exchange → Except Fault α → Prop} (h : Does client p m)
    (hpq : ∀ xs r, p xs r → q xs r) : Does client q m :=
  fun s => ⟨(h s).1, hpq _ _ (h s).2⟩

/-- Passing on a result exchanges nothing. -/
theorem ofExcept {r : Except Fault α} (h : p [] r) : Does client p (Act.ofExcept r) :=
  fun _ => ⟨rfl, h⟩

/-- Giving a value exchanges nothing. -/
theorem pure {a : α} (h : p [] (.ok a)) : Does client p (Pure.pure a : Act Event σ α) :=
  fun _ => ⟨rfl, h⟩

/-- Writing a line exchanges nothing. -/
theorem note {p : List Exchange → Except Fault Unit → Prop} {line : LogLine} (h : p [] (.ok ())) :
    Does client p (Act.note (.log line)) :=
  fun _ => ⟨rfl, h⟩

/-- A call is one exchange, with whatever answer. -/
theorem perform {p : List Exchange → Except Fault Reply → Prop} {c : Call}
    (h : ∀ answer, p [⟨c, answer⟩] answer) : Does client p (perform client c) :=
  fun _ => ⟨rfl, h _⟩

/-- An attempt exchanges what the act exchanges. -/
theorem attempt {q : List Exchange → Except Fault (Except Fault α) → Prop} (h : Does client p m)
    (hq : ∀ xs r, p xs r → q xs (.ok r)) : Does client q m.attempt :=
  fun s => ⟨(h s).1, hq _ _ (h s).2⟩

/-- The exchanges of two acts are those of the first, and then those of the second if the first
came to a value. -/
theorem bind {q : List Exchange → Except Fault β → Prop} {k : α → Act Event σ β}
    (h : Does client p m) (herror : ∀ xs f, p xs (.error f) → q xs (.error f))
    (hok : ∀ xs a, p xs (.ok a) → Does client (fun ys r => q (xs ++ ys) r) (k a)) :
    Does client q (m >>= k) := by
  intro s
  obtain ⟨hstate, hp⟩ := h s
  rw [Act.bind_apply]
  generalize m s = o at hstate hp
  obtain ⟨events, r, s'⟩ := o
  cases r with
  | error f => exact ⟨hstate, herror _ f hp⟩
  | ok a =>
      obtain ⟨hstate', hq⟩ := hok _ a hp s'
      dsimp only at hstate
      subst hstate
      dsimp only [Outcome.after]
      rw [exchanges, List.filterMap_append, Client.converse_append]
      exact ⟨hstate', hq⟩

end Does

/-! ### Opening and closing -/

/-- A call whose reply does not matter. -/
theorem Does.perform_unit {client : Client σ} {p : List Exchange → Except Fault Unit → Prop}
    {c : Call} (h : ∀ answer, p [⟨c, answer⟩] (answer.map fun _ => ())) :
    Does client p (do let _ ← Store.perform client c) := by
  refine Does.bind (Does.perform (p := fun xs r => xs = [⟨c, r⟩]) fun _ => rfl) ?_ ?_
  · rintro xs f rfl
    exact h (.error f)
  · rintro xs reply rfl
    exact Does.pure (h (.ok reply))

/-- What is done with an open connection, and closing it. -/
theorem Does.closing {client : Client σ} {p : List Exchange → Except Fault α → Prop}
    {m : Act Event σ α} (h : Does client p m) :
    Does client (fun xs r => ∃ inner r' answer, xs = inner ++ [⟨.close, answer⟩] ∧ p inner r' ∧
      r = answer >>= fun _ => r') (closing client m) := by
  refine Does.bind (h.attempt (q := fun xs r => ∃ r', r = .ok r' ∧ p xs r') ?_) ?_ ?_
  · exact fun xs r hp => ⟨r, rfl, hp⟩
  · rintro xs f ⟨r', hr, -⟩
    cases hr
  · rintro inner r' ⟨r, hr, hp⟩
    cases hr
    refine Does.bind (Does.perform_unit (p := fun xs r => ∃ answer, xs = [⟨.close, answer⟩] ∧
      r = answer.map fun _ => ()) fun answer => ⟨answer, rfl, rfl⟩) ?_ ?_
    · rintro xs f ⟨answer, rfl, hanswer⟩
      refine ⟨inner, r', answer, rfl, hp, ?_⟩
      cases answer with
      | error f' =>
          cases hanswer
          rfl
      | ok reply => cases hanswer
    · rintro xs a ⟨answer, rfl, hanswer⟩
      refine Does.ofExcept ⟨inner, r', answer, by rw [List.append_nil], hp, ?_⟩
      cases answer with
      | error f' => cases hanswer
      | ok reply => rfl

/-- An act that begins by opening the connection to a target. -/
theorem Does.connect {access : Access σ} {t : Target}
    {p : List Exchange → Except Fault β → Prop} {k : Act Event σ β}
    (hunopened : ∀ f, connection access t = .error f → p [] (.error f))
    (hrefused : ∀ o f, connection access t = .ok o → p [⟨.connect o, .error f⟩] (.error f))
    (hopened : ∀ o reply, connection access t = .ok o →
      Does access.client (fun xs r => p (⟨.connect o, .ok reply⟩ :: xs) r) k) :
    Does access.client p (Store.connect access t >>= fun _ => k) := by
  have hconnect : Does access.client (fun xs r =>
      (∃ f, connection access t = .error f ∧ xs = [] ∧ r = .error f) ∨
        ∃ o answer, connection access t = .ok o ∧ xs = [⟨.connect o, answer⟩] ∧
          r = answer.map fun _ => ()) (Store.connect access t) := by
    unfold Store.connect
    cases hopening : connection access t with
    | error f => exact Does.ofExcept (r := .error f) (.inl ⟨f, rfl, rfl, rfl⟩)
    | ok o => exact Does.perform_unit fun answer => .inr ⟨o, answer, rfl, rfl, rfl⟩
  refine Does.bind hconnect ?_ ?_
  · rintro xs f (⟨f', hopening, rfl, hf⟩ | ⟨o, answer, hopening, rfl, hanswer⟩)
    · cases hf
      exact hunopened f hopening
    · cases answer with
      | error f' =>
          cases hanswer
          exact hrefused o f hopening
      | ok reply => cases hanswer
  · rintro xs a (⟨f', -, -, hf⟩ | ⟨o, answer, hopening, rfl, hanswer⟩)
    · cases hf
    · cases answer with
      | error f' => cases hanswer
      | ok reply => exact hopened o reply hopening

/-! ### What is opened and what is closed -/

/-- The call neither opens a connection nor closes one. -/
def Call.isInner : Call → Bool
  | connect _ | close => false
  | _ => true

namespace Exchange

/-- A connection is asked for. -/
def connects : Exchange → Bool
  | ⟨.connect _, _⟩ => true
  | _ => false

/-- A connection is opened. -/
def opens : Exchange → Bool
  | ⟨.connect _, .ok _⟩ => true
  | _ => false

/-- A connection is closed. -/
def closes : Exchange → Bool
  | ⟨.close, _⟩ => true
  | _ => false

/-- An inner call neither opens a connection nor closes one. -/
theorem silent_of_isInner {x : Exchange} (h : x.call.isInner) :
    x.connects = false ∧ x.opens = false ∧ x.closes = false := by
  obtain ⟨c, answer⟩ := x
  cases c with
  | connect _ | close => cases h
  | _ => exact ⟨rfl, rfl, rfl⟩

end Exchange

/-- How many connections were asked for. -/
def connected (xs : List Exchange) : Nat := xs.countP Exchange.connects

/-- How many connections were opened. -/
def opened (xs : List Exchange) : Nat := xs.countP Exchange.opens

/-- How many connections were closed. -/
def closed (xs : List Exchange) : Nat := xs.countP Exchange.closes

/-- Inner calls open and close nothing. -/
theorem count_inner {xs : List Exchange} (h : ∀ x ∈ xs, x.call.isInner) :
    connected xs = 0 ∧ opened xs = 0 ∧ closed xs = 0 := by
  simp only [connected, opened, closed, List.countP_eq_zero]
  refine ⟨fun x hx => ?_, fun x hx => ?_, fun x hx => ?_⟩
  · simp [(Exchange.silent_of_isInner (h x hx)).1]
  · simp [(Exchange.silent_of_isInner (h x hx)).2.1]
  · simp [(Exchange.silent_of_isInner (h x hx)).2.2]

/-- Openings add up. -/
theorem opened_append (xs ys : List Exchange) : opened (xs ++ ys) = opened xs + opened ys :=
  List.countP_append

/-- Closings add up. -/
theorem closed_append (xs ys : List Exchange) : closed (xs ++ ys) = closed xs + closed ys :=
  List.countP_append

/-- A connection that was opened is one, whatever is said on it. -/
theorem opened_open {inner : List Exchange} (h : ∀ x ∈ inner, x.call.isInner) (o : Connection)
    (reply : Reply) : opened (⟨.connect o, .ok reply⟩ :: inner) = 1 := by
  rw [opened, List.countP_cons_of_pos rfl]
  exact congrArg (· + 1) (count_inner h).2.1

/-- A connection that is still open has not been closed. -/
theorem closed_open {inner : List Exchange} (h : ∀ x ∈ inner, x.call.isInner) (o : Connection)
    (answer : Except Fault Reply) : closed (⟨.connect o, answer⟩ :: inner) = 0 := by
  rw [closed, List.countP_cons_of_neg Bool.false_ne_true]
  exact (count_inner h).2.2

/-- One connection is asked for at most. If it is opened it is closed once, as the last of all that
is said. -/
structure IsBracket (xs : List Exchange) : Prop where
  connected : connected xs ≤ 1
  closed : closed xs = opened xs
  last : opened xs = 1 → ∃ answer, xs.getLast? = some ⟨.close, answer⟩

/-- What is said from the opening of a connection to its closing. -/
theorem isBracket_closed {inner : List Exchange} (h : ∀ x ∈ inner, x.call.isInner) (o : Connection)
    (reply : Reply) (answer : Except Fault Reply) :
    IsBracket (⟨.connect o, .ok reply⟩ :: inner ++ [⟨.close, answer⟩]) where
  connected := by
    have hinner : inner.countP Exchange.connects = 0 := (count_inner h).1
    rw [Store.connected, List.countP_append, List.countP_cons_of_pos rfl, hinner]
    exact Nat.le_refl 1
  closed := by
    rw [closed_append, opened_append, closed_open h, opened_open h]
    rfl
  last := fun _ => ⟨answer, List.getLast?_concat⟩

end RequestLog.Store
