import RequestLog.Fault

/-!
# Acts

An act works on a state, notes events while it does, and ends with a value or a fault. Whatever
it noted or changed before a fault stays noted and changed. A `Step` is the same without events:
it is what a component outside the library does when it is asked.
-/

namespace RequestLog

/-- What an act leaves behind. -/
structure Outcome (ε σ α : Type) where
  events : List ε
  result : Except Fault α
  state : σ

/-- An act on states `σ` that notes events `ε`. -/
def Act (ε σ α : Type) : Type := σ → Outcome ε σ α

/-- What a component with state `σ` does when it is asked. -/
abbrev Step (σ α : Type) : Type := σ → Except Fault α × σ

namespace Act

variable {ε ε' σ α β : Type}

instance : Monad (Act ε σ) where
  pure a := fun s => ⟨[], .ok a, s⟩
  bind m k := fun s =>
    match m s with
    | ⟨events, .ok a, s'⟩ => let o := k a s'; ⟨events ++ o.events, o.result, o.state⟩
    | ⟨events, .error f, s'⟩ => ⟨events, .error f, s'⟩

/-- Ends with a fault. -/
def fail (f : Fault) : Act ε σ α := fun s => ⟨[], .error f, s⟩

/-- Notes an event. -/
def note (e : ε) : Act ε σ Unit := fun s => ⟨[e], .ok (), s⟩

/-- Ends as a result says. -/
def ofExcept (r : Except Fault α) : Act ε σ α := fun s => ⟨[], r, s⟩

/-- Asks a component. -/
def ask (step : Step σ α) : Act ε σ α := fun s => let (r, s') := step s; ⟨[], r, s'⟩

/-- Runs an act and gives its result as a value, so that a fault does not end the whole. -/
def attempt (m : Act ε σ α) : Act ε σ (Except Fault α) := fun s =>
  let o := m s
  ⟨o.events, .ok o.result, o.state⟩

/-- Runs an act and then another one, whatever the first came to. -/
def andFinally (m : Act ε σ α) (last : Act ε σ Unit) : Act ε σ α := do
  let r ← m.attempt
  last
  ofExcept r

/-- The same act with its events renamed. -/
def mapEvents (f : ε → ε') (m : Act ε σ α) : Act ε' σ α := fun s =>
  let o := m s
  ⟨o.events.map f, o.result, o.state⟩

/-- The state. -/
def get : Act ε σ σ := fun s => ⟨[], .ok s, s⟩

/-- Changes the state. -/
def modify (f : σ → σ) : Act ε σ Unit := fun s => ⟨[], .ok (), f s⟩

/-- Works on a part of the state. -/
def onPart {τ : Type} (part : σ → τ) (put : τ → σ → σ) (m : Act ε τ α) : Act ε σ α := fun s =>
  let o := m (part s)
  ⟨o.events, o.result, put o.state s⟩

end Act

end RequestLog
