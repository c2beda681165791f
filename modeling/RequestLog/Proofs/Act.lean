import RequestLog.Act

/-!
# Acts in sequence

What an act leaves behind is read off its parts. `bind_apply` says how two acts follow each other:
the events of the first stand in front of those of the second, which runs only if the first came
to a value. `Notes p` says that an act notes only events that `p` holds of, in whatever state it is
run. Commands are acts one after another, of which each finds the state that those before left,
failed or not (`stateAfter`). An act that works on one of two separate states leaves the other one
alone (`onFirst_apply`, `onSecond_apply`).
-/

namespace RequestLog

variable {ε ε' σ τ α β : Type}

namespace Outcome

/-- The outcome with events in front of its own. -/
def after (events : List ε) (o : Outcome ε σ α) : Outcome ε σ α :=
  ⟨events ++ o.events, o.result, o.state⟩

/-- What was noted before comes first. -/
@[simp]
theorem after_events (events : List ε) (o : Outcome ε σ α) :
    (o.after events).events = events ++ o.events := rfl

/-- What was noted before makes no difference to the result. -/
@[simp]
theorem after_result (events : List ε) (o : Outcome ε σ α) :
    (o.after events).result = o.result := rfl

/-- What was noted before makes no difference to the state. -/
@[simp]
theorem after_state (events : List ε) (o : Outcome ε σ α) : (o.after events).state = o.state := rfl

@[simp]
theorem after_nil (o : Outcome ε σ α) : o.after [] = o := rfl

end Outcome

namespace Act

/-! ### What the single acts leave behind -/

/-- A value is given at once, and nothing else happens. -/
@[simp]
theorem pure_apply (a : α) (s : σ) : (pure a : Act ε σ α) s = ⟨[], .ok a, s⟩ := rfl

/-- A fault ends the act, with the state as it was. -/
@[simp]
theorem fail_apply (f : Fault) (s : σ) : (fail f : Act ε σ α) s = ⟨[], .error f, s⟩ := rfl

@[simp]
theorem note_apply (e : ε) (s : σ) : note e s = ⟨[e], .ok (), s⟩ := rfl

/-- A result is passed on, and nothing else happens. -/
@[simp]
theorem ofExcept_apply (r : Except Fault α) (s : σ) :
    (ofExcept r : Act ε σ α) s = ⟨[], r, s⟩ := rfl

/-- A component that is asked may change the state and notes nothing. -/
@[simp]
theorem ask_apply (step : Step σ α) (s : σ) :
    (ask step : Act ε σ α) s = ⟨[], (step s).1, (step s).2⟩ := rfl

/-- An attempt does what the act does, and never fails. -/
@[simp]
theorem attempt_apply (m : Act ε σ α) (s : σ) :
    m.attempt s = ⟨(m s).events, .ok (m s).result, (m s).state⟩ := rfl

/-- Renaming changes the events and nothing else. -/
@[simp]
theorem mapEvents_apply (f : ε → ε') (m : Act ε σ α) (s : σ) :
    m.mapEvents f s = ⟨(m s).events.map f, (m s).result, (m s).state⟩ := rfl

@[simp]
theorem get_apply (s : σ) : (get : Act ε σ σ) s = ⟨[], .ok s, s⟩ := rfl

/-- A change of the state notes nothing. -/
@[simp]
theorem modify_apply (f : σ → σ) (s : σ) : (modify f : Act ε σ Unit) s = ⟨[], .ok (), f s⟩ := rfl

/-- Work on a part is put back into the whole, also after a fault. -/
@[simp]
theorem onPart_apply (part : σ → τ) (put : τ → σ → σ) (m : Act ε τ α) (s : σ) :
    m.onPart part put s =
      ⟨(m (part s)).events, (m (part s)).result, put (m (part s)).state s⟩ := rfl

/-- The second of two acts goes on from the value and the state that the first came to; a fault of
the first is the fault of both. -/
theorem bind_apply (m : Act ε σ α) (k : α → Act ε σ β) (s : σ) :
    (m >>= k) s = match (m s).result with
      | .ok a => (k a (m s).state).after (m s).events
      | .error f => ⟨(m s).events, .error f, (m s).state⟩ := by
  simp only [bind]
  rcases m s with ⟨events, r, s'⟩
  cases r with
  | error f => rfl
  | ok a => rfl

/-- Two acts of which the first comes to a value. -/
theorem bind_of_ok {m : Act ε σ α} {k : α → Act ε σ β} {s s' : σ} {events : List ε} {a : α}
    (h : m s = ⟨events, .ok a, s'⟩) : (m >>= k) s = (k a s').after events := by
  rw [bind_apply, h]

/-- Two acts of which the first fails. -/
theorem bind_of_error {m : Act ε σ α} {k : α → Act ε σ β} {s s' : σ} {events : List ε} {f : Fault}
    (h : m s = ⟨events, .error f, s'⟩) : (m >>= k) s = ⟨events, .error f, s'⟩ := by
  rw [bind_apply, h]

/-- What the first of two acts notes, both note. -/
theorem mem_bind {m : Act ε σ α} {k : α → Act ε σ β} {s : σ} {e : ε} (h : e ∈ (m s).events) :
    e ∈ ((m >>= k) s).events := by
  rw [bind_apply]
  cases (m s).result with
  | error f => exact h
  | ok a => exact List.mem_append_left _ h

/-- An act after which only its value is changed. -/
theorem bind_pure_apply (m : Act ε σ α) (f : α → β) (s : σ) :
    (m >>= fun a => pure (f a)) s = ⟨(m s).events, (m s).result.map f, (m s).state⟩ := by
  rw [bind_apply]
  rcases m s with ⟨events, r, s'⟩
  cases r with
  | error f => rfl
  | ok a => simp [Outcome.after, Except.map]

/-- A result that is a value is just that value for what follows. -/
theorem ofExcept_ok_bind (a : α) (k : α → Act ε σ β) : (ofExcept (.ok a) >>= k) = k a := rfl

/-! ### What an act notes -/

/-- Whatever state the act is run in, it notes only events that `p` holds of. -/
def Notes (p : ε → Prop) (m : Act ε σ α) : Prop := ∀ s, ∀ e ∈ (m s).events, p e

section Notes

variable {p : ε → Prop} {m : Act ε σ α}

/-- A value notes nothing. -/
theorem notes_pure (a : α) : (pure a : Act ε σ α).Notes p := by
  intro s e he
  cases he

/-- Passing on a result notes nothing. -/
theorem notes_ofExcept (r : Except Fault α) : (ofExcept r : Act ε σ α).Notes p := by
  intro s e he
  cases he

/-- Asking a component notes nothing. -/
theorem notes_ask (step : Step σ α) : (ask step : Act ε σ α).Notes p := by
  intro s e he
  cases he

/-- An event that is allowed may be noted. -/
theorem notes_note {e : ε} (h : p e) : (note e : Act ε σ Unit).Notes p := by
  intro s e' he'
  rw [note_apply, List.mem_singleton] at he'
  exact he' ▸ h

/-- A fault notes nothing. -/
theorem notes_fail (f : Fault) : (fail f : Act ε σ α).Notes p := by
  intro s e he
  cases he

theorem notes_get : (get : Act ε σ σ).Notes p := by
  intro s e he
  cases he

theorem notes_modify (f : σ → σ) : (modify f : Act ε σ Unit).Notes p := by
  intro s e he
  cases he

/-- An attempt notes what the act notes. -/
theorem Notes.attempt (h : m.Notes p) : m.attempt.Notes p := h

/-- Two acts note what each of them does. -/
theorem Notes.bind {k : α → Act ε σ β} (hm : m.Notes p) (hk : ∀ a, (k a).Notes p) :
    (m >>= k).Notes p := by
  intro s e he
  rw [bind_apply] at he
  cases hr : (m s).result with
  | error f =>
      rw [hr] at he
      exact hm s e he
  | ok a =>
      rw [hr] at he
      rcases List.mem_append.mp he with he | he
      · exact hm s e he
      · exact hk a _ e he

/-- What both acts may note, the one with the other as its end may note. -/
theorem Notes.andFinally {last : Act ε σ Unit} (hm : m.Notes p) (hlast : last.Notes p) :
    (m.andFinally last).Notes p :=
  hm.attempt.bind fun r => hlast.bind fun _ => notes_ofExcept r

end Notes

/-! ### Commands one after another -/

section Commands

variable {κ : Type} (perform : κ → Act ε σ α)

/-- The state after commands, whether they failed or not. -/
def stateAfter (s : σ) (commands : List κ) : σ := commands.foldl (fun s k => (perform k s).state) s

/-- The state after two runs is that after the second one, begun where the first one ended. -/
theorem stateAfter_append (s : σ) (before since : List κ) :
    stateAfter perform s (before ++ since) =
      stateAfter perform (stateAfter perform s before) since :=
  List.foldl_append

/-- The last command is performed in the state that those before it have left. -/
theorem stateAfter_concat (s : σ) (commands : List κ) (k : κ) :
    stateAfter perform s (commands ++ [k]) = (perform k (stateAfter perform s commands)).state :=
  List.foldl_append

/-- What commands give one by one: what the last one gives stands at the end. -/
theorem filterMap_concat (f : κ → Option α) (commands : List κ) (k : κ) :
    (commands ++ [k]).filterMap f = commands.filterMap f ++ (f k).toList := by
  rw [List.filterMap_append]
  cases h : f k <;> simp [h]

/-- What was given under a name last is what the last command gives, or else what was given
before. -/
theorem lookup_filterMap_concat (f : κ → Option (String × α)) (commands : List κ) (k : κ)
    (name : String) :
    ((commands ++ [k]).filterMap f).reverse.lookup name =
      ((f k).toList.lookup name).or ((commands.filterMap f).reverse.lookup name) := by
  have hlast : (f k).toList.reverse = (f k).toList := by cases f k <;> rfl
  rw [filterMap_concat, List.reverse_append, hlast, List.lookup_append]

end Commands

/-! ### Two states apart -/

/-- An act on the first of two states. -/
def onFirst (m : Act ε σ α) : Act ε (σ × τ) α := m.onPart Prod.fst fun s p => (s, p.2)

/-- An act on the second of two states. -/
def onSecond (m : Act ε τ α) : Act ε (σ × τ) α := m.onPart Prod.snd fun t p => (p.1, t)

/-- On the first of two states an act works as it does alone. -/
@[simp]
theorem onFirst_apply (m : Act ε σ α) (s : σ) (t : τ) :
    m.onFirst (s, t) = ⟨(m s).events, (m s).result, ((m s).state, t)⟩ := rfl

/-- On the second of two states an act works as it does alone. -/
@[simp]
theorem onSecond_apply (m : Act ε τ α) (s : σ) (t : τ) :
    m.onSecond (s, t) = ⟨(m t).events, (m t).result, (s, (m t).state)⟩ := rfl

end Act

namespace Step

/-- A component that works on the first of two states. -/
def onFirst (step : Step σ α) : Step (σ × τ) α := fun p => ((step p.1).1, (step p.1).2, p.2)

/-- A component that works on the second of two states. -/
def onSecond (step : Step τ α) : Step (σ × τ) α := fun p => ((step p.2).1, p.1, (step p.2).2)

/-- A component of the first of two states leaves the second one as it is. -/
@[simp]
theorem onFirst_apply (step : Step σ α) (s : σ) (t : τ) :
    onFirst step (s, t) = ((step s).1, (step s).2, t) := rfl

/-- A component of the second of two states leaves the first one as it is. -/
@[simp]
theorem onSecond_apply (step : Step τ α) (s : σ) (t : τ) :
    onSecond step (s, t) = ((step t).1, s, (step t).2) := rfl

end Step

end RequestLog
