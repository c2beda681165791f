import RequestLog.Proofs.Store.Bracket

/-!
# What a search asks for

A search tells the store what it looks for, then the order if there is one, then how many documents
to leave out and how many to give, and then it asks for just as many (`follows_find`,
`find_paging`). A store that honours the number it is asked for gives no more than that
(`length_find_le`). `Follows` says which calls of a kind an act makes, and that it leaves some of
them out only if it fails; it is shown along the parts of the act.
-/

namespace RequestLog.Store

variable {σ α β : Type}

/-- The call says which part of the result is wanted. -/
def Call.isPaging : Call → Bool
  | skip _ | limit _ | fetch _ => true
  | _ => false

/-- The call says what is looked for, in which order, or which part of the result is wanted. -/
def Call.isSearching : Call → Bool
  | find .. | sort _ => true
  | c => c.isPaging

/-- An act that comes to a value makes just these calls of the kind `p`, in this order. -/
def Makes (p : Call → Bool) (calls : List Call) (m : Act Event σ α) : Prop :=
  ∀ s a, (m s).result = .ok a → ((m s).events.filterMap Event.call?).filter p = calls

/-- An act makes these calls of the kind `p`, in this order. It ends before the last of them only if
it fails. -/
structure Follows (p : Call → Bool) (calls : List Call) (m : Act Event σ α) : Prop where
  begins : ∀ s, ((m s).events.filterMap Event.call?).filter p <+: calls
  makes : Makes p calls m

namespace Follows

variable {p : Call → Bool} {calls more : List Call} {client : Client σ}

theorem ofExcept (r : Except Fault α) : Follows p [] (Act.ofExcept r : Act Event σ α) :=
  ⟨fun _ => List.prefix_rfl, fun _ _ _ => rfl⟩

theorem pure (a : α) : Follows p [] (Pure.pure a : Act Event σ α) :=
  ⟨fun _ => List.prefix_rfl, fun _ _ _ => rfl⟩

theorem bind {m : Act Event σ α} {k : α → Act Event σ β} (hm : Follows p calls m)
    (hk : ∀ a, Follows p more (k a)) : Follows p (calls ++ more) (m >>= k) where
  begins := by
    intro s
    rw [Act.bind_apply]
    cases ha : (m s).result with
    | error f => exact (hm.begins s).trans (List.prefix_append calls more)
    | ok a =>
        dsimp only
        rw [Outcome.after_events, List.filterMap_append, List.filter_append, hm.makes s a ha]
        exact (List.prefix_append_right_inj calls).mpr ((hk a).begins _)
  makes := by
    intro s b hb
    rw [Act.bind_apply] at hb ⊢
    cases ha : (m s).result with
    | error f =>
        rw [ha] at hb
        cases hb
    | ok a =>
        rw [ha] at hb
        dsimp only at hb ⊢
        rw [Outcome.after_events, List.filterMap_append, List.filter_append, hm.makes s a ha]
        exact congrArg (calls ++ ·) ((hk a).makes _ b hb)

/-- Something of another kind comes first. -/
theorem behind {m : Act Event σ α} {k : α → Act Event σ β} (hm : Follows p [] m)
    (hk : ∀ a, Follows p calls (k a)) : Follows p calls (m >>= k) := hm.bind hk

/-- Something of another kind comes last. -/
theorem before {m : Act Event σ α} {k : α → Act Event σ β} (hm : Follows p calls m)
    (hk : ∀ a, Follows p [] (k a)) : Follows p calls (m >>= k) := by
  rw [← List.append_nil calls]
  exact hm.bind hk

/-- What comes after a fault is never made. -/
theorem of_error (f : Fault) (k : α → Act Event σ β) :
    Follows p calls (Act.ofExcept (.error f) >>= k) :=
  ⟨fun _ => List.nil_prefix, fun _ _ h => nomatch h⟩

theorem perform (c : Call) : Follows p ([c].filter p) (Store.perform client c) :=
  ⟨fun _ => List.prefix_rfl, fun _ _ _ => rfl⟩

/-- A call of another kind. -/
theorem other {c : Call} (hc : p c = false) : Follows p [] (Store.perform client c) := by
  have hcall : Follows p ([c].filter p) (Store.perform client c) := perform c
  rw [List.filter_cons_of_neg (by simp [hc]), List.filter_nil] at hcall
  exact hcall

/-- Making a call and waiting for its answer, where waiting is of another kind. -/
theorem awaited (hawait : ∀ ticket, p (.await ticket) = false) (c : Call) :
    Follows p ([c].filter p) (performAwaited client c) := by
  refine (perform c).before fun reply => ?_
  cases reply with
  | waiting ticket => exact other (hawait ticket)
  | _ => exact pure _

/-- Opening a connection, where that is of another kind. -/
theorem connect (access : Access σ) (t : Target) (hconnect : ∀ o, p (.connect o) = false) :
    Follows p [] (Store.connect access t) :=
  (ofExcept _).behind fun o => (other (hconnect o)).behind fun _ => pure ()

/-- Closing the connection in the end, where that is of another kind. -/
theorem closing {m : Act Event σ α} (hm : Follows p calls m) (hclose : p .close = false) :
    Follows p calls (Store.closing client m) := by
  have hlast (r : Except Fault α) : Follows p []
      ((do let _ ← Store.perform client .close : Act Event σ Unit) >>= fun _ => Act.ofExcept r) :=
    ((other hclose).behind fun _ => pure ()).behind fun _ => ofExcept r
  have hclosing (s : σ) : Store.closing client m s =
      (((do let _ ← Store.perform client .close : Act Event σ Unit) >>= fun _ =>
        Act.ofExcept (m s).result) (m s).state).after (m s).events :=
    Act.bind_of_ok (Act.attempt_apply m s)
  have hevents (s : σ) : ((Store.closing client m s).events.filterMap Event.call?).filter p =
      ((m s).events.filterMap Event.call?).filter p := by
    have hnone := List.prefix_nil.mp ((hlast (m s).result).begins (m s).state)
    rw [hclosing, Outcome.after_events, List.filterMap_append, List.filter_append, hnone,
      List.append_nil]
  refine ⟨fun s => hevents s ▸ hm.begins s, fun s a ha => ?_⟩
  rw [hevents]
  rw [hclosing, Outcome.after_result, Act.bind_apply] at ha
  cases hr : (m s).result with
  | ok a' => exact hm.makes s a' hr
  | error f =>
      rw [hr] at ha
      split at ha <;> cases ha

end Follows

/-- Which part of the result a search asks for. -/
def Query.paging (q : Query) : List Call :=
  [.skip (q.skip.orElse (.int 0)), .limit (q.limit.orElse usualLimit),
    .fetch (q.limit.orElse usualLimit)]

/-- The order that a search asks for, if any. -/
def ordering (pairs : List Value) : List Call := if pairs.isEmpty then [] else [.sort pairs]

/-- Of the calls of a kind, a search makes the one that says what is looked for, and then those that
give the order and the part of the result, if the order can be made out. -/
theorem follows_find {p : Call → Bool} (hkind : ∀ c, c.isSearching = false → p c = false)
    (access : Access σ) (t : Target) {q : Query} {rest : List Call}
    (hrest : ∀ pairs, sortPairs q.sort = .ok pairs → (ordering pairs ++ q.paging).filter p = rest) :
    Follows p
      ([.find t.database t.collection (q.filter.orElse (.mapping []))].filter p ++ rest)
      (find access t q) := by
  unfold find
  refine (Follows.connect access t fun _ => hkind _ rfl).behind fun _ => ?_
  refine Follows.closing ?_ (hkind _ rfl)
  refine (Follows.other (hkind _ rfl)).behind fun _ => (Follows.perform (.find ..)).bind fun _ => ?_
  cases hpairs : sortPairs q.sort with
  | error f => exact Follows.of_error f _
  | ok pairs =>
      -- Whatever is made of the reply, the page is asked for before.
      have hpage (answer : Reply → Act Event σ (List Value))
          (hanswer : ∀ reply, Follows p [] (answer reply)) : Follows p (q.paging.filter p) (do
            let _ ← perform access.client (.skip (q.skip.orElse (.int 0)))
            let _ ← perform access.client (.limit (q.limit.orElse usualLimit))
            answer (← performAwaited access.client (.fetch (q.limit.orElse usualLimit)))) := by
        have hpaging : q.paging = [.skip (q.skip.orElse (.int 0))] ++
            ([.limit (q.limit.orElse usualLimit)] ++ [.fetch (q.limit.orElse usualLimit)]) := rfl
        rw [hpaging, List.filter_append, List.filter_append]
        refine (Follows.perform _).bind fun _ => (Follows.perform _).bind fun _ => ?_
        exact (Follows.awaited (fun _ => hkind _ rfl) _).before hanswer
      rw [Act.ofExcept_ok_bind, ← hrest pairs hpairs, List.filter_append]
      cases pairs with
      | nil =>
          refine hpage _ fun reply => ?_
          cases reply <;> exact Follows.pure _
      | cons pair pairs =>
          refine (Follows.perform (.sort _)).bind fun _ => hpage _ fun reply => ?_
          cases reply <;> exact Follows.pure _

/-- A search that comes to documents asks for them with one skip, one limit and one fetch. -/
theorem find_paging {access : Access σ} {t : Target} {q : Query} {s : σ} {documents : List Value}
    (h : (find access t q s).result = .ok documents) :
    ((find access t q s).events.filterMap Event.call?).filter Call.isPaging =
      [.skip (q.skip.orElse (.int 0)), .limit (q.limit.orElse usualLimit),
        .fetch (q.limit.orElse usualLimit)] := by
  have hother (c : Call) (hc : c.isSearching = false) : c.isPaging = false := by
    cases c <;> first | rfl | exact hc
  have hpaging (pairs : List Value) (_ : sortPairs q.sort = .ok pairs) :
      (ordering pairs ++ q.paging).filter Call.isPaging = q.paging := by
    cases pairs <;> rfl
  exact (follows_find hother access t hpaging).makes s documents h

/-- Whatever is said to the client, an answer to a request for a number of documents has no more of
them. -/
def Client.HonoursLimit (client : Client σ) : Prop :=
  ∀ (calls : List Call) (s : σ) (before behind : List Exchange) (c : Call) (reply : Reply)
    (n : Int), (client.converse calls s).1 = before ++ ⟨c, .ok reply⟩ :: behind →
      Answers (.fetch (.int n)) before c reply → (reply.documents.length : Int) ≤ n

/-- A search that comes to documents has heard them in answer to its request for them. -/
theorem FindBrackets.answered {access : Access σ} {t : Target} {q : Query} {xs : List Exchange}
    {documents : List Value} (h : FindBrackets access t q xs (.ok documents)) :
    ∃ before c reply behind, xs = before ++ ⟨c, .ok reply⟩ :: behind ∧
      Answers (.fetch (q.limit.orElse usualLimit)) before c reply ∧
        documents = reply.documents := by
  generalize hr : Except.ok documents = r at h
  cases h with
  | unopened => cases hr
  | refused => cases hr
  | @closed o opening inner r answer hopening hwork =>
      cases answer with
      | error f => cases hr
      | ok closing =>
          change Except.ok documents = r at hr
          subst hr
          generalize hvalue : Except.ok documents = r at hwork
          cases hwork with
          | failed => cases hvalue
          | own => cases hvalue
          | @answered ys c reply hpassed hinner hanswers =>
              refine ⟨⟨.connect o, .ok opening⟩ :: ys, c, reply, [⟨.close, .ok closing⟩], by simp,
                hanswers.append [_], Except.ok.inj hvalue⟩

/-- A search finds no more documents than it asks for, if the store honours that. -/
theorem length_find_le {access : Access σ} {t : Target} {q : Query} {s : σ}
    {documents : List Value} {n : Int} (hclient : access.client.HonoursLimit)
    (hlimit : q.limit.orElse usualLimit = .int n)
    (h : (find access t q s).result = .ok documents) : (documents.length : Int) ≤ n := by
  have hfound := (does_find access t q s).2
  rw [h] at hfound
  obtain ⟨before, c, reply, behind, hxs, hanswers, rfl⟩ := FindBrackets.answered hfound
  rw [hlimit] at hanswers
  exact hclient _ s before behind c reply n hxs hanswers

end RequestLog.Store
