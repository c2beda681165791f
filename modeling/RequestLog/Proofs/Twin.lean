import Mathlib.Data.List.Forall2
import RequestLog.Proofs.Act

/-!
# Acts side by side

Two acts are twins if they cannot be told apart by what is compared: run from states that are alike
they note events that are alike, one by one, come to values that are alike or to the same fault, and
leave states that are alike (`Act.Twin`). What counts as alike is given for events, states and
values. Acts that are made of twins in the same way are twins.
-/

namespace RequestLog

variable {ε ε' σ τ α β : Type}

/-- The results are values that are alike, or the same fault. -/
inductive ResultsAlike (A : α → α → Prop) : Except Fault α → Except Fault α → Prop
  | ok {a a' : α} (h : A a a') : ResultsAlike A (.ok a) (.ok a')
  | error (f : Fault) : ResultsAlike A (.error f) (.error f)

namespace ResultsAlike

variable {A : α → α → Prop} {B : β → β → Prop} {r r' : Except Fault α}

/-- A result is like itself if values are like themselves. -/
theorem refl (h : ∀ a, A a a) (r : Except Fault α) : ResultsAlike A r r := by
  cases r with
  | ok a => exact .ok (h a)
  | error f => exact .error f

/-- Equal results are alike with equal values. -/
theorem of_eq (h : r = r') : ResultsAlike Eq r r' := h ▸ refl (fun _ => rfl) r

/-- Results that are alike with equal values are equal. -/
theorem eq_of_eq (h : ResultsAlike Eq r r') : r = r' := by
  cases h with
  | ok h => rw [h]
  | error f => rfl

/-- Steps that go on alike from results that are alike come to results that are alike. -/
theorem bind {k k' : α → Except Fault β} (h : ResultsAlike A r r')
    (hk : ∀ a a', A a a' → ResultsAlike B (k a) (k' a')) :
    ResultsAlike B (r >>= k) (r' >>= k') := by
  cases h with
  | ok h => exact hk _ _ h
  | error f => exact .error f

end ResultsAlike

/-- What a view shows of events that are alike is the same where it is the same of each. -/
theorem filterMap_eq_of_alike {E : ε → ε → Prop} {view : ε → Option α}
    (hview : ∀ e e', E e e' → view e = view e') {events events' : List ε}
    (h : List.Forall₂ E events events') : events.filterMap view = events'.filterMap view := by
  induction h with
  | nil => rfl
  | cons he _ ih => rw [List.filterMap_cons, List.filterMap_cons, hview _ _ he, ih]

/-- The outcomes have events, results and states that are alike. -/
structure Outcome.Alike (E : ε → ε → Prop) (S : σ → σ → Prop) (A : α → α → Prop)
    (o o' : Outcome ε σ α) : Prop where
  events : List.Forall₂ E o.events o'.events
  result : ResultsAlike A o.result o'.result
  state : S o.state o'.state

namespace Act

/-- From states that are alike the acts come to outcomes that are alike. -/
def Twin (E : ε → ε → Prop) (S : σ → σ → Prop) (A : α → α → Prop) (m m' : Act ε σ α) : Prop :=
  ∀ s s', S s s' → Outcome.Alike E S A (m s) (m' s')

variable {E : ε → ε → Prop} {F : ε' → ε' → Prop} {S : σ → σ → Prop} {T : τ → τ → Prop}
  {A : α → α → Prop} {B : β → β → Prop} {m m' : Act ε σ α}

/-! ### Single acts -/

/-- Values that are alike are given alike. -/
theorem twin_pure {a a' : α} (h : A a a') : Twin E S A (pure a) (pure a') :=
  fun _ _ hs => ⟨.nil, .ok h, hs⟩

/-- Events that are alike are noted alike. -/
theorem twin_note {e e' : ε} (h : E e e') : Twin E S Eq (note e) (note e') :=
  fun _ _ hs => ⟨.cons h .nil, .ok rfl, hs⟩

theorem twin_fail (f : Fault) : Twin E S A (fail f) (fail f) :=
  fun _ _ hs => ⟨.nil, .error f, hs⟩

/-- Results that are alike are passed on alike. -/
theorem twin_ofExcept {r r' : Except Fault α} (h : ResultsAlike A r r') :
    Twin E S A (ofExcept r) (ofExcept r') :=
  fun _ _ hs => ⟨.nil, h, hs⟩

/-- The same result on both sides. -/
theorem twin_ofExcept_eq {r r' : Except Fault α} (h : r = r') :
    Twin E S Eq (ofExcept r) (ofExcept r') :=
  twin_ofExcept (.of_eq h)

/-- Components are asked alike if they answer the same and change their states alike. -/
theorem twin_ask {step step' : Step σ α}
    (h : ∀ s s', S s s' → (step s).1 = (step' s').1 ∧ S (step s).2 (step' s').2) :
    Twin E S Eq (ask step) (ask step') := by
  intro s s' hs
  obtain ⟨hresult, hstate⟩ := h s s' hs
  refine ⟨.nil, ?_, hstate⟩
  rw [ask_apply, ask_apply, hresult]
  exact .refl (fun _ => rfl) _

theorem twin_get : Twin E S S get get := fun _ _ hs => ⟨.nil, .ok hs, hs⟩

/-- States are changed alike if they stay alike. -/
theorem twin_modify {f f' : σ → σ} (h : ∀ s s', S s s' → S (f s) (f' s')) :
    Twin E S Eq (modify f) (modify f') :=
  fun _ _ hs => ⟨.nil, .ok rfl, h _ _ hs⟩

/-- An act from the same state is its own twin, as long as an event is like itself. -/
theorem Twin.refl (hE : ∀ e, E e e) (m : Act ε σ α) : Twin E Eq Eq m m := by
  rintro s _ ⟨⟩
  exact ⟨List.forall₂_same.mpr fun e _ => hE e, .of_eq (Eq.refl _), Eq.refl _⟩

theorem Twin.rfl (m : Act ε σ α) : Twin Eq Eq Eq m m := .refl (fun _ => Eq.refl _) m

/-! ### Acts made of others -/

/-- Acts that go on alike from values that are alike are alike as a whole. -/
theorem Twin.bind {k k' : α → Act ε σ β} (hm : Twin E S A m m')
    (hk : ∀ a a', A a a' → Twin E S B (k a) (k' a')) : Twin E S B (m >>= k) (m' >>= k') := by
  intro s s' hs
  obtain ⟨hevents, hresult, hstate⟩ := hm s s' hs
  rw [bind_apply, bind_apply]
  generalize (m s).result = r at hresult
  generalize (m' s').result = r' at hresult
  cases hresult with
  | error f => exact ⟨hevents, .error f, hstate⟩
  | ok ha =>
      obtain ⟨hevents', hresult', hstate'⟩ := hk _ _ ha _ _ hstate
      exact ⟨List.rel_append hevents hevents', hresult', hstate'⟩

/-- The value of the first act is the same on both sides, and what follows goes on from it. -/
theorem Twin.bind_eq {k k' : α → Act ε σ β} (hm : Twin E S Eq m m')
    (hk : ∀ a, Twin E S B (k a) (k' a)) : Twin E S B (m >>= k) (m' >>= k') :=
  hm.bind fun a _ ha => ha ▸ hk a

/-- Acts that are alike are attempted alike. -/
theorem Twin.attempt (hm : Twin E S A m m') :
    Twin E S (ResultsAlike A) m.attempt m'.attempt := by
  intro s s' hs
  obtain ⟨hevents, hresult, hstate⟩ := hm s s' hs
  exact ⟨hevents, .ok hresult, hstate⟩

/-- A result that is taken as a value is the same where the act comes to the same. -/
theorem Twin.attempt_eq (hm : Twin E S Eq m m') : Twin E S Eq m.attempt m'.attempt := by
  intro s s' hs
  obtain ⟨hevents, hresult, hstate⟩ := hm s s' hs
  exact ⟨hevents, .ok hresult.eq_of_eq, hstate⟩

/-- Acts that are alike are ended alike. -/
theorem Twin.andFinally {last last' : Act ε σ Unit} (hm : Twin E S A m m')
    (hlast : Twin E S Eq last last') :
    Twin E S A (m.andFinally last) (m'.andFinally last') :=
  hm.attempt.bind fun _ _ hr => hlast.bind fun _ _ _ => twin_ofExcept hr

/-- Acts whose events are renamed are twins where events that are alike are renamed alike. -/
theorem Twin.mapEvents {f : ε → ε'} (hm : Twin E S A m m') (hf : ∀ e e', E e e' → F (f e) (f e')) :
    Twin F S A (m.mapEvents f) (m'.mapEvents f) := by
  intro s s' hs
  obtain ⟨hevents, hresult, hstate⟩ := hm s s' hs
  refine ⟨?_, hresult, hstate⟩
  exact List.forall₂_map_left_iff.mpr (List.forall₂_map_right_iff.mpr (hevents.imp hf))

/-- Acts on parts that are alike are alike on the whole states. -/
theorem Twin.onPart {part part' : τ → σ} {put put' : σ → τ → τ} (hm : Twin E S A m m')
    (hpart : ∀ t t', T t t' → S (part t) (part' t'))
    (hput : ∀ s s' t t', S s s' → T t t' → T (put s t) (put' s' t')) :
    Twin E T A (m.onPart part put) (m'.onPart part' put') := by
  intro t t' ht
  obtain ⟨hevents, hresult, hstate⟩ := hm _ _ (hpart t t' ht)
  exact ⟨hevents, hresult, hput _ _ _ _ hstate ht⟩

end Act

end RequestLog
