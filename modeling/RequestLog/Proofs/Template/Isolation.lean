import RequestLog.Proofs.Template.Meaning

/-!
# Tokens that fail

A token may fail, or give anything whatever. Resolving it still comes to a value, with two
exceptions (`Untold`): if what was given is none of the values that a record keeps and fails to
present itself as a text, or if the fault of the token has no wording, resolving fails. For a
record, let a token with a state of its own be added to others (`Registry.Adds`). The record has all
keys, and under those of the other tokens the values that they have without it, unless one of these
exceptions ends the whole record: `token_fails_alone`.
-/

namespace RequestLog

variable {σ τ : Type}

/-- A resolver that works on the first of two states. -/
def Resolver.onFirst (resolver : Resolver σ) : Resolver (σ × τ) :=
  fun sight argument => Step.onFirst (resolver sight argument)

/-- A resolver that works on the second of two states. -/
def Resolver.onSecond (resolver : Resolver τ) : Resolver (σ × τ) :=
  fun sight argument => Step.onSecond (resolver sight argument)

namespace Registry

/-- The registry has other tokens and one token more, which has a state of its own. -/
structure Adds (whole : Registry (Resolver (σ × τ))) (others : Registry (Resolver σ))
    (name : String) (token : Resolver τ) : Prop where
  new : others.tokens.get? name = none
  token : whole.tokens.get? name = some (Resolver.onSecond token)
  others : ∀ other, other ≠ name →
    whole.tokens.get? other = (others.tokens.get? other).map Resolver.onFirst

/-- The registry after a token with a state of its own has been registered. -/
def adding (others : Registry (Resolver σ)) (name : String) (token : Resolver τ) :
    Registry (Resolver (σ × τ)) :=
  ⟨(others.map Resolver.onFirst).tokens.insert name (Resolver.onSecond token)⟩

theorem get?_map {ρ ρ' : Type} (f : ρ → ρ') (r : Registry ρ) (name : String) :
    (r.map f).tokens.get? name = (r.tokens.get? name).map f :=
  lookup_map (fun _ => f) r.tokens.entries name

theorem adds_adding {others : Registry (Resolver σ)} {name : String} (token : Resolver τ)
    (h : others.tokens.get? name = none) : (others.adding name token).Adds others name token where
  new := h
  token := by rw [adding, Table.get?_insert, if_pos rfl]
  others := by
    intro other hother
    rw [adding, Table.get?_insert, if_neg hother, get?_map]

variable {whole : Registry (Resolver (σ × τ))} {others : Registry (Resolver σ)} {name : String}
  {token : Resolver τ}

/-- The added token works on its own state. -/
theorem Adds.resolution_token (h : whole.Adds others name token) (sight : Sight)
    (argument : Option String) (s : σ) (u : τ) :
    whole.resolution name sight argument (s, u) =
      (.called (token sight argument u).1, s, (token sight argument u).2) := by
  unfold resolution
  rw [h.token]
  rfl

/-- Without the added token nothing is registered under its name. -/
theorem Adds.resolution_without (h : whole.Adds others name token) (sight : Sight)
    (argument : Option String) (s : σ) :
    others.resolution name sight argument s = (.unregistered, s) := by
  unfold resolution
  rw [h.new]

/-- The other tokens come to what they come to without the added one. -/
theorem Adds.resolution_other (h : whole.Adds others name token) {other : String}
    (hother : other ≠ name) (sight : Sight) (argument : Option String) (s : σ) (u : τ) :
    whole.resolution other sight argument (s, u) =
      ((others.resolution other sight argument s).1,
        (others.resolution other sight argument s).2, u) := by
  unfold resolution
  rw [h.others other hother]
  cases others.tokens.get? other with
  | none => rfl
  | some resolver => rfl

/-- Resolving a token fails exactly if what its resolver came to leaves no value, and with just this
failure. -/
theorem resolve_eq_error_iff {registry : Registry (Resolver σ)} {sight : Sight}
    {argument : Option String} {s : σ} {f : Fault} :
    (registry.resolve name sight argument s).result = .error f ↔
      ∃ resolver, registry.tokens.get? name = some resolver ∧
        Untold (resolver sight argument s).1 f := by
  rw [resolve_apply, Resolution.value_eq_error_iff]
  unfold resolution
  cases registry.tokens.get? name with
  | none => simp
  | some resolver => simp

end Registry

namespace Template

open Registry

/-- With this argument the token may leave no value, and `f` is why. -/
def MayEnd (token : Resolver τ) (sight : Sight) (argument : Option String) (f : Fault) : Prop :=
  ∃ u, Untold (token sight argument u).1 f

section Addition

variable {whole : Registry (Resolver (σ × τ))} {others : Registry (Resolver σ)} {name : String}
  {token : Resolver τ}

/-- Placeholders have values if the first one has, and the others after it. -/
theorem result_fieldValues_cons (registry : Registry (Resolver σ)) (sight : Sight) (p : Placeholder)
    (rest : List Placeholder) (s : σ) :
    (fieldValues registry sight (p :: rest) s).result = do
      let v ← (registry.resolution p.name sight p.argument s).1.value
      let values ←
        (fieldValues registry sight rest (registry.resolution p.name sight p.argument s).2).result
      return (p.key, v) :: values := by
  have hresolve := registry.resolve_apply p.name sight p.argument s
  cases hvalue : (registry.resolution p.name sight p.argument s).1.value with
  | error f =>
      rw [hvalue] at hresolve
      rw [fieldValues_cons_error _ _ hresolve]
      rfl
  | ok v =>
      rw [hvalue] at hresolve
      rw [fieldValues_cons _ _ hresolve]
      cases (fieldValues registry sight rest _).result with
      | error f => rfl
      | ok values => rfl

/-- The values of placeholders with a token added, beside those without it: the same under every key
that is not one of the added token, unless what the token came to left no value. -/
theorem fieldValues_adds (h : whole.Adds others name token) (sight : Sight)
    (ps : List Placeholder) {s : σ} (u : τ) {values : Fields}
    (halone : (fieldValues others sight ps s).result = .ok values) :
    (∃ values', (fieldValues whole sight ps (s, u)).result = .ok values' ∧
      ∀ key, (∀ p ∈ ps, p.name = name → key ≠ p.key) →
        values'.lookup key = values.lookup key) ∨
    (∃ p ∈ ps, p.name = name ∧ ∃ f, MayEnd token sight p.argument f ∧
      (fieldValues whole sight ps (s, u)).result = .error f) := by
  induction ps generalizing s u values with
  | nil =>
      cases halone
      exact .inl ⟨[], rfl, fun _ _ => rfl⟩
  | cons p rest ih =>
      rw [result_fieldValues_cons] at halone
      obtain ⟨v, hv, halone⟩ := ok_of_bind halone
      obtain ⟨values, hvalues, halone⟩ := ok_of_bind halone
      cases halone
      rw [result_fieldValues_cons]
      by_cases hname : p.name = name
      · rw [hname, h.resolution_without] at hvalues
        rw [hname, h.resolution_token]
        cases hgiven : (Resolution.called (token sight p.argument u).1).value with
        | error f =>
            obtain ⟨outcome, houtcome, huntold⟩ := Resolution.value_eq_error_iff.mp hgiven
            cases houtcome
            right
            exact ⟨p, .head _, hname, f, ⟨u, huntold⟩, rfl⟩
        | ok w =>
            rcases ih (token sight p.argument u).2 hvalues with ⟨values', hwhole, hsame⟩ | hfault
            · left
              refine ⟨(p.key, w) :: values', by rw [hwhole]; rfl, ?_⟩
              intro key hkey
              have hne : (key == p.key) = false := by simpa using hkey p (.head _) hname
              rw [List.lookup_cons, List.lookup_cons, hne]
              exact hsame key fun q hq => hkey q (.tail _ hq)
            · right
              obtain ⟨q, hq, hqname, f, hf, hwhole⟩ := hfault
              exact ⟨q, .tail _ hq, hqname, f, hf, by rw [hwhole]; rfl⟩
      · rw [h.resolution_other hname, hv]
        rcases ih u hvalues with ⟨values', hwhole, hsame⟩ | hfault
        · left
          refine ⟨(p.key, v) :: values', by rw [hwhole]; rfl, ?_⟩
          intro key hkey
          rw [List.lookup_cons, List.lookup_cons, hsame key fun q hq => hkey q (.tail _ hq)]
        · right
          obtain ⟨q, hq, hqname, f, hf, hwhole⟩ := hfault
          exact ⟨q, .tail _ hq, hqname, f, hf, by rw [hwhole]; rfl⟩

/-- The values that a record is made of are found under their keys. -/
theorem get?_ofList {values : Fields} (h : (values.map (·.1)).Nodup) (key : String) :
    (Record.ofList values).get? key = values.lookup key := by
  rw [Record.get?, Record.ofList, Table.get?, Table.entries_ofList h]

/-- The values of placeholders stand under their keys. -/
theorem keys_fieldValues {registry : Registry (Resolver σ)} {sight : Sight} {ps : List Placeholder}
    {s : σ} {values : Fields} (h : (fieldValues registry sight ps s).result = .ok values) :
    values.map (·.1) = ps.map Placeholder.key := by
  induction ps generalizing s values with
  | nil =>
      cases h
      rfl
  | cons p rest ih =>
      rw [result_fieldValues_cons] at h
      obtain ⟨v, -, h⟩ := ok_of_bind h
      obtain ⟨values, hvalues, h⟩ := ok_of_bind h
      cases h
      rw [List.map_cons, List.map_cons, ih hvalues]

/-- **A failing token.**  Resolving a token comes to a simple value, unless its resolver gives
something that is not simple and fails to present itself, or fails with a fault that has no wording;
then resolving fails with what presenting, or wording, fails with, and with nothing else. When a
token with a state of its own is added to a registry with which a template comes to a record, then
it still does. The record has all keys, and under each that is not one of the added token the value
that it has without it. Only if what the added token itself comes to leaves no value there may be no
record. -/
theorem token_fails_alone (h : whole.Adds others name token) {source : String} {t : Template}
    (ht : compile source = .ok t) (sight : Sight) (s : σ) (u : τ) {alone : Record}
    (halone : (t.build others sight s).result = .ok alone) :
    (∀ {ρ : Type} (registry : Registry (Resolver ρ)) (any : String) (argument : Option String)
      (state : ρ),
      (∀ v, (registry.resolve any sight argument state).result = .ok v → v.isSimple) ∧
      ∀ f, (registry.resolve any sight argument state).result = .error f ↔
        ∃ resolver, registry.tokens.get? any = some resolver ∧
          Untold (resolver sight argument state).1 f) ∧
    ((∃ record, (t.build whole sight (s, u)).result = .ok record ∧
      record.keys = (scan source).eraseDups.map Placeholder.key ∧
      ∀ p ∈ scan source, p.name ≠ name → record.get? p.key = alone.get? p.key) ∨
    ∃ p ∈ scan source, p.name = name ∧ ∃ f, MayEnd token sight p.argument f ∧
      (t.build whole sight (s, u)).result = .error f) := by
  constructor
  · intro ρ registry any argument state
    constructor
    · intro v hv
      rw [resolve_apply] at hv
      exact Resolution.isSimple_value hv
    · intro f
      exact resolve_eq_error_iff
  · have hsource : source ≠ "" := by
      rintro rfl
      cases ht
    obtain rfl : t = ⟨source, (scan source).eraseDups⟩ :=
      Except.ok.inj (ht.symm.trans (compile_ok hsource))
    rw [build_apply] at halone ⊢
    dsimp only at halone ⊢
    cases hvalues : (fieldValues others sight (scan source).eraseDups s).result with
    | error f =>
        rw [hvalues] at halone
        cases halone
    | ok values =>
        rw [hvalues] at halone
        cases halone
        rcases fieldValues_adds h sight _ u hvalues with ⟨values', hwhole, hsame⟩ | hfault
        · left
          have hnodup := nodup_keys_scan source
          have hkeys := keys_fieldValues hwhole
          refine ⟨.ofList values', by rw [hwhole]; rfl, ?_, ?_⟩
          · rw [Record.keys, Table.keys, Record.ofList, Table.entries_ofList (hkeys ▸ hnodup),
              hkeys]
          · intro p hp hname
            rw [get?_ofList (hkeys ▸ hnodup), get?_ofList (keys_fieldValues hvalues ▸ hnodup)]
            apply hsame
            intro q hq hqname hkey
            have hpq : p = q := eq_of_key_eq (isProper_of_mem_scan hp)
              (isProper_of_mem_scan (List.mem_eraseDups.mp hq)) hkey
            exact hname (hpq ▸ hqname)
        · right
          obtain ⟨p, hp, hname, f, hf, hwhole⟩ := hfault
          exact ⟨p, List.mem_eraseDups.mp hp, hname, f, hf, by rw [hwhole]; rfl⟩

/-- A token that fails beside one that counts: the record has both keys, and the count is the one
without it. -/
theorem token_fails_alone_counting :
    let broken : Resolver Unit := fun _ _ u => (.error (.reported .value "broken"), u)
    let whole := Registry.counting.adding "broken" broken
    ∃ t alone record, compile ":broken :asked" = .ok t ∧
      (t.build Registry.counting .atNoon 0).result = .ok alone ∧
      (t.build whole .atNoon (0, ())).result = .ok record ∧
      record.keys = ["broken", "asked"] ∧ record.get? "asked" = alone.get? "asked" := by
  intro broken whole
  have hscan : scan ":broken :asked" = [⟨"broken", none⟩, ⟨"asked", none⟩] := by decide +kernel
  have ht : compile ":broken :asked" =
      .ok ⟨":broken :asked", [⟨"broken", none⟩, ⟨"asked", none⟩]⟩ := by
    rw [compile_ok (by decide), hscan]
    rfl
  have hadds : whole.Adds Registry.counting "broken" broken := adds_adding broken rfl
  obtain ⟨-, ⟨record, hrecord, hkeys, hsame⟩ | hfault⟩ :=
    token_fails_alone hadds ht .atNoon 0 () rfl
  · rw [hscan] at hkeys hsame
    exact ⟨_, _, record, ht, rfl, hrecord, hkeys, hsame ⟨"asked", none⟩ (by simp) (by decide)⟩
  · obtain ⟨_, _, _, _, ⟨_, huntold⟩, _⟩ := hfault
    obtain _ | hmessage := huntold
    cases hmessage

/-- What fails to present itself ends the record: the built-in tokens show the method here, but not
beside a token that gives such a thing. -/
theorem unpresentable_ends_record :
    let boom : Fault := .reported .value "boom"
    let broken : Resolver Unit := fun _ _ u => (.ok (.thing (.error boom) (.ok "<broken>")), u)
    let others : Registry (Resolver Unit) := .builtin Registry.plain
    let whole := others.adding "broken" broken
    whole.Adds others "broken" broken ∧
      (whole.resolve "broken" .atNoon none ((), ())).result = .error boom ∧
      ∃ t alone, compile ":broken :method" = .ok t ∧
        (t.build others .atNoon ()).result = .ok alone ∧
        (t.build whole .atNoon ((), ())).result = .error boom := by
  intro boom broken others whole
  have hscan : scan ":broken :method" = [⟨"broken", none⟩, ⟨"method", none⟩] := by decide +kernel
  have ht : compile ":broken :method" =
      .ok ⟨":broken :method", [⟨"broken", none⟩, ⟨"method", none⟩]⟩ := by
    rw [compile_ok (by decide), hscan]
    rfl
  exact ⟨adds_adding broken rfl, rfl, _, _, ht, rfl, rfl⟩

end Addition

end Template

end RequestLog
