import RequestLog.LoggerOptions
import RequestLog.Proofs.Store.Refusal
import RequestLog.Proofs.Store.Search

/-!
# Retrieving what was logged

A logger is asked for documents with a filter, an order, a limit and a number of documents to leave
out. It passes this on to its sink, and the sink to the store; on the way each of them puts usual
values for what was not given. What comes out of that on the store's side is `retrieve_searches`.
-/

namespace RequestLog

/-! ### Counts -/

/-- A fraction is the integer zero if it is a zero of either sign. -/
theorem Binary64.isInt_zero (x : Binary64) : x.isInt 0 = x.isZero := by
  cases x with
  | finite negative mantissa exponent =>
      have hproduct (k : Nat) : (mantissa : Int) * (Nat.pow 2 k : Nat) = 0 ↔ mantissa = 0 := by
        have hpow : Nat.pow 2 k ≠ 0 := Nat.pos_iff_ne_zero.mp (Nat.pow_pos (by decide))
        rw [Int.mul_eq_zero, Int.natCast_eq_zero, or_iff_left (Int.natCast_ne_zero.mpr hpow)]
      have hzero : units negative mantissa exponent = 0 ↔ mantissa = 0 := by
        cases negative with
        | false => exact hproduct _
        | true => exact Int.neg_eq_zero.trans (hproduct _)
      rw [isInt, isZero, Int.zero_mul, Bool.eq_iff_iff, beq_iff_eq, beq_iff_eq]
      exact hzero
  | _ => rfl

namespace Value

/-- The value is a number, or there is none. -/
def IsCount (v : Value) : Prop := v = .absent ∨ v.numeric?.isSome

/-- There is a value, and it is not zero. -/
def isGiven (v : Value) : Bool := !v.isAbsent && !v.same (.int 0)

/-- A number counts as true unless it is zero, of whatever kind it is. -/
theorem IsCount.truth_eq {v : Value} (h : v.IsCount) : v.truth = v.isGiven := by
  rcases h with rfl | hnumeric
  · rfl
  · cases v with
    | bool b => cases b <;> rfl
    | int n => simp [truth, isGiven, isAbsent, same, sameAtom, numeric?, Numeric.same, bne]
    | float x =>
        simp [truth, isGiven, isAbsent, same, sameAtom, numeric?, Numeric.same,
          Binary64.isInt_zero]
    | _ => cases hnumeric

/-- Of several values, each stands for the one before it if that does not count as true. -/
theorem find?_truth (u v : Value) {w : Value} (h : w.truth) :
    [u, v, w].find? truth = some ((u.orElse v).orElse w) := by
  cases hu : u.truth <;> cases hv : v.truth <;> simp [orElse, hu, hv, h]

end Value

namespace Store

/-! ### Orders -/

/-- Two values, as a sequence. -/
inductive IsPair : Value → Value × Value → Prop
  | tuple (v w : Value) : IsPair (.tuple [v, w]) (v, w)
  | list (v w : Value) : IsPair (.list [v, w]) (v, w)

/-- The order goes by these pairs: there is none, or a mapping of its entries, or a sequence of
pairs. -/
inductive Sorts : Value → List (Value × Value) → Prop
  | absent : Sorts .absent []
  | mapping (entries : List (String × Value)) :
      Sorts (.mapping entries) (entries.map fun e => (.text e.1, e.2))
  | list {items : List Value} {pairs : List (Value × Value)} (h : List.Forall₂ IsPair items pairs) :
      Sorts (.list items) pairs
  | tuple {items : List Value} {pairs : List (Value × Value)}
      (h : List.Forall₂ IsPair items pairs) : Sorts (.tuple items) pairs

theorem sortPair_eq {v : Value} {pair : Value × Value} (h : IsPair v pair) :
    sortPair v = .ok (.tuple [pair.1, pair.2]) := by
  cases h <;> rfl

theorem mapM_sortPair {items : List Value} {pairs : List (Value × Value)}
    (h : List.Forall₂ IsPair items pairs) :
    items.mapM sortPair = .ok (pairs.map fun pair => .tuple [pair.1, pair.2]) := by
  induction h with
  | nil => rfl
  | cons hpair hrest ih =>
      rw [List.mapM_cons, sortPair_eq hpair, ih]
      rfl

/-- What stands for the pairs of an order does not matter. -/
theorem sortPairs_eq {sort : Value} {pairs : List (Value × Value)} (h : Sorts sort pairs) :
    sortPairs sort = .ok (pairs.map fun pair => .tuple [pair.1, pair.2]) := by
  cases h with
  | absent => rfl
  | mapping entries =>
      cases entries with
      | nil => rfl
      | cons e rest =>
          show Except.ok _ = _
          rw [List.map_map]
          rfl
  | list hpairs | tuple hpairs =>
      cases hpairs with
      | nil => rfl
      | cons hpair hrest => exact mapM_sortPair (.cons hpair hrest)

/-! ### Clients that answer -/

variable {σ : Type}

/-- The client replies to every call. -/
def Client.Replies (client : Client σ) : Prop := ∀ c s, ∃ reply, (client c s).1 = .ok reply

theorem Client.Replies.converse {client : Client σ} (h : client.Replies) (calls : List Call)
    (s : σ) : ∀ x ∈ (client.converse calls s).1, ∃ reply, x.answer = .ok reply := by
  induction calls generalizing s with
  | nil => exact fun x hx => nomatch hx
  | cons c rest ih => exact List.forall_mem_cons.mpr ⟨h c s, ih _⟩

/-- A search fails only if its target or its order cannot be made out, or if the client fails. -/
theorem FindBrackets.ok {access : Access σ} {t : Target} {q : Query} {o : Connection}
    {pairs : List Value} {xs : List Exchange} {r : Except Fault (List Value)}
    (h : FindBrackets access t q xs r) (hopening : connection access t = .ok o)
    (hpairs : sortPairs q.sort = .ok pairs) (hxs : ∀ x ∈ xs, ∃ reply, x.answer = .ok reply) :
    ∃ documents, r = .ok documents := by
  cases h with
  | unopened hunopened =>
      rw [hopening] at hunopened
      cases hunopened
  | @refused o' f _ =>
      obtain ⟨reply, hreply⟩ := hxs ⟨.connect o', .error f⟩ (List.mem_singleton_self _)
      cases hreply
  | @closed o' opening inner r answer _ hwork =>
      obtain ⟨closing, hclosing⟩ := hxs ⟨.close, answer⟩ (by simp)
      obtain rfl : answer = .ok closing := hclosing
      cases hwork with
      | answered => exact ⟨_, rfl⟩
      | @failed ys c f _ _ =>
          obtain ⟨reply, hreply⟩ := hxs ⟨c, .error f⟩ (by simp)
          cases hreply
      | own _ hown =>
          rw [hpairs] at hown
          cases hown

/-! ### Searches -/

/-- What is told to the store of a search: what is looked for, then the order unless it is empty,
then how many documents are left out, and twice how many are wanted. -/
def searchCalls (t : Target) (filter : Value) (pairs : List (Value × Value)) (skip limit : Value) :
    List Call :=
  .find t.database t.collection (filter.orElse (.mapping [])) ::
    (if pairs = [] then [] else [.sort (pairs.map fun pair => .tuple [pair.1, pair.2])]) ++
      [.skip (skip.orElse (.int 0)), .limit limit, .fetch limit]

variable (access : Access σ) (t : Target) {q : Query} {pairs : List (Value × Value)}

/-- A search tells the store all that it is asked for. -/
theorem find_searches (h : Sorts q.sort pairs) :
    Follows Call.isSearching
      (searchCalls t q.filter pairs q.skip (q.limit.orElse usualLimit)) (find access t q) := by
  have hrest : ∀ found, sortPairs q.sort = .ok found →
      (ordering found ++ q.paging).filter Call.isSearching =
        (if pairs = [] then [] else [.sort (pairs.map fun pair => .tuple [pair.1, pair.2])]) ++
          q.paging := by
    intro found hfound
    rw [sortPairs_eq h] at hfound
    cases hfound
    cases pairs <;> rfl
  exact follows_find (fun _ => id) access t hrest

/-- Searches that go by the same pairs are the same. -/
theorem find_of_sorts {sort : Value} (h : Sorts q.sort pairs) (hsort : Sorts sort pairs) :
    find access t { q with sort } = find access t q := by
  unfold find
  rw [sortPairs_eq h, sortPairs_eq hsort]

/-- Where the connection can be asked for and the client replies, a search comes to documents. -/
theorem find_ok (h : Sorts q.sort pairs) (hclient : access.client.Replies) {o : Connection}
    (hopening : connection access t = .ok o) (s : σ) :
    ∃ documents, (find access t q s).result = .ok documents :=
  (does_find access t q s).2.ok hopening (sortPairs_eq h) (hclient.converse _ _)

end Store

/-! ### Loggers -/

namespace LoggerPlan

variable {β σ : Type} (p : LoggerPlan β) (access : Store.Access σ) (sink : Store.Sink σ)
  {q : Store.Query} {pairs : List (Value × Value)}

/-- What a logger retrieves is what its sink finds in the store. -/
theorem retrieve_apply (q : Store.Query) : p.retrieve access q sink =
    ⟨(Store.find access sink.target (p.query q) sink.client).events,
      (Store.find access sink.target (p.query q) sink.client).result,
      { sink with client := (Store.find access sink.target (p.query q) sink.client).state }⟩ := rfl

/-- **Retrieval.**  A logger that is asked for documents tells the store its filter, the pairs of
the order if there are any, how many documents to leave out, and twice the same limit: the first one
that is given, of its own, that of the settings and a thousand, which is never zero. It stops before
that only if it fails, and it does not fail if the store does not. An order in another form makes no
difference. -/
theorem retrieve_searches (h : Store.Sorts q.sort pairs) (hlimit : q.limit.IsCount)
    (husual : p.queryLimit.IsCount) :
    let o := p.retrieve access q sink
    let told := (o.events.filterMap Store.Event.call?).filter Store.Call.isSearching
    ∃ limit, [q.limit, p.queryLimit, .int 1000].find? Value.isGiven = some limit ∧
      limit.same (.int 0) = false ∧
      told <+: Store.searchCalls sink.target q.filter pairs q.skip limit ∧
      (∀ documents, o.result = .ok documents →
        told = Store.searchCalls sink.target q.filter pairs q.skip limit) ∧
      (access.client.Replies → ∀ opening, Store.connection access sink.target = .ok opening →
        ∃ documents, o.result = .ok documents) ∧
      ∀ sort, Store.Sorts sort pairs → p.retrieve access { q with sort } sink = o := by
  have hsorts : Store.Sorts (p.query q).sort pairs := h
  have hfollows : Store.Follows Store.Call.isSearching
      (Store.searchCalls sink.target q.filter pairs q.skip
        ((q.limit.orElse p.queryLimit).orElse Store.usualLimit))
      (Store.find access sink.target (p.query q)) :=
    Store.find_searches access sink.target hsorts
  have hfirst : [q.limit, p.queryLimit, .int 1000].find? Value.isGiven =
      some ((q.limit.orElse p.queryLimit).orElse Store.usualLimit) := by
    rw [← Value.find?_truth q.limit p.queryLimit rfl]
    simp only [List.find?_cons, hlimit.truth_eq, husual.truth_eq]
    rfl
  have hgiven := List.find?_some hfirst
  rw [retrieve_apply]
  refine ⟨_, hfirst, ?_, hfollows.begins sink.client, fun documents hdocuments => ?_,
    fun hclient opening hopening => Store.find_ok access _ hsorts hclient hopening sink.client,
    fun sort hsort => ?_⟩
  · simpa [Value.isGiven] using (Bool.and_eq_true_iff.mp hgiven).2
  · exact hfollows.makes sink.client documents hdocuments
  · have hquery : p.query { q with sort } = { p.query q with sort } := rfl
    have hfind := Store.find_of_sorts access sink.target hsorts hsort
    rw [retrieve_apply, hquery, hfind]

/-- A client that finds one document. -/
def findingClient : Store.Client Unit := fun c s =>
  (.ok (match c with
    | .fetch _ => .found [.mapping []]
    | _ => .done), s)

/-- A plan whose usual limit is zero. -/
def unlimitedPlan : LoggerPlan Unit where
  target := none
  immediate := .bool false
  queryLimit := .int 0
  selected := .builder ()

/-- Neither a limit nor a usual one is given, and the order is a mapping or the list of its
entries. -/
theorem retrieve_searches_mapping :
    let access : Store.Access Unit := ⟨findingClient, .int 5000⟩
    let sink : Store.Sink Unit :=
      { target := ⟨.text "mongodb://localhost", .text "logs", .text "requests"⟩, client := () }
    let q : Store.Query :=
      { sort := .mapping [("date", .int (-1)), ("url", .int 1)], limit := .absent, skip := .absent }
    let items : Value :=
      .list [.list [.text "date", .int (-1)], .tuple [.text "url", .int 1]]
    let o := unlimitedPlan.retrieve access q sink
    Store.Sorts q.sort [(.text "date", .int (-1)), (.text "url", .int 1)] ∧
      q.limit.IsCount ∧ unlimitedPlan.queryLimit.IsCount ∧ access.client.Replies ∧
      (o.events.filterMap Store.Event.call?).filter Store.Call.isSearching =
        [.find (.text "logs") (.text "requests") (.mapping []),
          .sort [.tuple [.text "date", .int (-1)], .tuple [.text "url", .int 1]],
          .skip (.int 0), .limit (.int 1000), .fetch (.int 1000)] ∧
      unlimitedPlan.retrieve access { q with sort := items } sink = o := by
  intro access sink q items o
  have hsorts : Store.Sorts q.sort [(.text "date", .int (-1)), (.text "url", .int 1)] :=
    .mapping [("date", .int (-1)), ("url", .int 1)]
  have hitems : Store.Sorts items [(.text "date", .int (-1)), (.text "url", .int 1)] :=
    .list (.cons (.list _ _) (.cons (.tuple _ _) .nil))
  have hlimit : q.limit.IsCount := .inl rfl
  have husual : unlimitedPlan.queryLimit.IsCount := .inr rfl
  have hclient : access.client.Replies := fun c s => ⟨_, rfl⟩
  obtain ⟨limit, hfirst, -, -, htold, hok, hsame⟩ :=
    unlimitedPlan.retrieve_searches access sink hsorts hlimit husual
  obtain rfl : .int 1000 = limit := Option.some.inj hfirst
  obtain ⟨documents, hdocuments⟩ := hok hclient _ rfl
  exact ⟨hsorts, hlimit, husual, hclient, htold documents hdocuments, hsame items hitems⟩

end LoggerPlan

end RequestLog
