import RequestLog.Proofs.Act
import RequestLog.Settings

/-!
# How settings are made

A setting comes from its variable in the environment, or else from what is given, or else from the
default; what a variable says depends on whether it is a text, a switch or a number
(`Source.Gives`). `Constructed` tells all that making settings may come to. The main statement is
`constructed_make`.
-/

namespace RequestLog.Settings

variable {σ : Type}

/-! ### The settings by name -/

/-- A value that is set is there, and the others are as they were. -/
theorem get_set (s : Settings) (f g : Field) (v : Value) :
    (s.set f v).get g = if g = f then v else s.get g := by
  cases f <;> cases g <;> rfl

/-- Setting a field does not hide the summary. -/
theorem summaryHidden_set (s : Settings) (f : Field) (v : Value) :
    (s.set f v).summaryHidden = s.summaryHidden := by
  cases f <;> rfl

/-- Settings with the same fields are the same. -/
theorem eq_of_get {s s' : Settings} (hsummary : s.summaryHidden = s'.summaryHidden)
    (h : ∀ f, s.get f = s'.get f) : s = s' := by
  cases s
  cases s'
  simp only [Settings.mk.injEq]
  exact ⟨h .address, h .database, h .collection, h .selectionTimeout, h .format, h .immediate,
    h .queryLimit, h .logLevel, h .lineFormat, h .debugChannels, hsummary⟩

/-- A field is found by its name. -/
theorem Field.ofName?_name (f : Field) : ofName? f.name = some f := by
  cases f <;> rfl

/-- Only its own name finds a field. -/
theorem Field.ofName?_eq_some_iff {name : String} {f : Field} :
    ofName? name = some f ↔ name = f.name := by
  constructor
  · intro h
    have hname := List.find?_some h
    exact (beq_iff_eq.mp hname).symm
  · rintro rfl
    exact f.ofName?_name

/-! ### What is given -/

/-- All names are those of settings. -/
def AreKnown (values : List (String × Value)) : Prop := ∀ p ∈ values, ∃ f : Field, p.1 = f.name

/-- The value that a setting has before the environment is asked: what is given under its name, or
else the default. -/
def initial (values : List (String × Value)) (f : Field) : Value :=
  (values.reverse.lookup f.name).getD (({} : Settings).get f)

/-- Given values take the place of others if all their names are known. -/
theorem given_cases (values : List (String × Value)) (s : Settings) :
    (AreKnown values ∧ ∃ s', given values s = .ok s' ∧ s'.summaryHidden = s.summaryHidden ∧
      ∀ f, s'.get f = (values.reverse.lookup f.name).getD (s.get f)) ∨
    (¬AreKnown values ∧ ∃ fault, given values s = .error fault ∧ fault.kind = .type) := by
  induction values generalizing s with
  | nil => exact .inl ⟨by simp [AreKnown], s, rfl, rfl, fun f => rfl⟩
  | cons p rest ih =>
      obtain ⟨name, v⟩ := p
      have hknown : AreKnown ((name, v) :: rest) ↔
          (∃ f : Field, name = f.name) ∧ AreKnown rest := List.forall_mem_cons
      rw [given, hknown]
      cases hname : Field.ofName? name with
      | none =>
          have hunknown : ¬∃ f : Field, name = f.name := by
            rintro ⟨f, rfl⟩
            rw [f.ofName?_name] at hname
            cases hname
          refine .inr ⟨fun h => hunknown h.1, _, rfl, ?_⟩
          split <;> rfl
      | some f =>
          obtain rfl := Field.ofName?_eq_some_iff.mp hname
          rcases ih (s.set f v) with
            ⟨hrest, s', hs', hsummary, hget⟩ | ⟨hrest, fault, hfault, hkind⟩
          · refine .inl ⟨⟨⟨f, rfl⟩, hrest⟩, s', hs', hsummary.trans (summaryHidden_set s f v), ?_⟩
            intro g
            rw [hget, get_set, List.reverse_cons, List.lookup_append]
            by_cases hfield : g = f
            · simp [hfield]
            · have hother : g.name ≠ f.name := by
                intro heq
                have hsame := Field.ofName?_eq_some_iff.mpr heq.symm
                rw [f.ofName?_name] at hsame
                exact hfield (Option.some.inj hsame).symm
              simp [hfield, List.lookup_cons, beq_eq_false_iff_ne.mpr hother]
          · exact .inr ⟨fun h => hrest h.2, fault, hfault, hkind⟩

/-! ### What the environment says -/

/-- Where the environment is asked for a setting: for a variable that is a text, a switch or a
number, or for none. -/
inductive Source where
  | text (name : String)
  | switch (name : String)
  | number (name : String)
  | nowhere

/-- Where a setting comes from. -/
def Field.source : Field → Source
  | address => .text "MONGODB_URI"
  | database => .text "LOGMONGO_DB_NAME"
  | collection => .text "LOGMONGO_COLLECTION"
  | selectionTimeout => .number "LOGMONGO_SERVER_SELECTION_TIMEOUT_MS"
  | format => .text "LOGMONGO_FORMAT"
  | immediate => .switch "LOGMONGO_IMMEDIATE"
  | queryLimit => .number "LOGMONGO_QUERY_LIMIT"
  | logLevel => .text "LOG_LEVEL"
  | lineFormat => .nowhere
  | debugChannels => .text "LOGMONGO_DEBUG"

/-- The word that a text is for a switch. -/
def switchWord (text : String) : String := Text.lower (Text.trim text)

/-- What a setting comes to by its source, and by the value that it has otherwise. A text counts as
soon as its variable is there; a switch if its variable has one of the words; a number if its
variable is not empty. -/
inductive Source.Gives (env : Environment) (otherwise : Value) : Source → Value → Prop
  | text {name text : String} (h : env.get? name = some text) :
      Gives env otherwise (.text name) (.text text)
  | noText {name : String} (h : env.get? name = none) : Gives env otherwise (.text name) otherwise
  | on {name text : String} (h : env.get? name = some text) (hword : switchWord text ∈ onWords) :
      Gives env otherwise (.switch name) (.bool true)
  | off {name text : String} (h : env.get? name = some text) (hword : switchWord text ∈ offWords) :
      Gives env otherwise (.switch name) (.bool false)
  | noSwitch {name : String}
      (h : ∀ text, env.get? name = some text → switchWord text ∉ onWords ++ offWords) :
      Gives env otherwise (.switch name) otherwise
  | number {name text : String} {n : Int} (h : env.get? name = some text) (hempty : text ≠ "")
      (hn : Numeral.readInt text = .ok n) : Gives env otherwise (.number name) (.int n)
  | noNumber {name : String} (h : ∀ text, env.get? name = some text → text = "") :
      Gives env otherwise (.number name) otherwise
  | nowhere : Gives env otherwise .nowhere otherwise

/-- The variable is not empty and is no integer. -/
def Unreadable (env : Environment) (name : String) : Prop :=
  ∃ text issue, env.get? name = some text ∧ text ≠ "" ∧ Numeral.readInt text = .error issue

/-- What is reported of a variable that is a switch: that it is ignored, if it is not blank and is
none of the words. -/
inductive Reports (env : Environment) (name : String) : List LogLine → Prop
  | ignored {text : String} (h : env.get? name = some text) (hblank : Text.trim text ≠ "")
      (hword : switchWord text ∉ onWords ++ offWords) : Reports env name [ignoredLine name text]
  | nothing (h : ∀ text, env.get? name = some text →
      Text.trim text = "" ∨ switchWord text ∈ onWords ++ offWords) : Reports env name []

/-- No word turns a switch both on and off. -/
theorem not_mem_offWords : ∀ word ∈ onWords, word ∉ offWords := by decide

/-- A source gives one value only. -/
theorem Source.Gives.unique {env : Environment} {otherwise v v' : Value} {source : Source}
    (h : source.Gives env otherwise v) (h' : source.Gives env otherwise v') : v = v' := by
  cases h with
  | text h =>
      cases h' with
      | text h' => rw [Option.some.inj (h.symm.trans h')]
      | noText h' => cases h.symm.trans h'
  | noText h =>
      cases h' with
      | text h' => cases h.symm.trans h'
      | noText h' => rfl
  | on h hword =>
      cases h' with
      | on h' hword' => rfl
      | off h' hword' =>
          obtain rfl := Option.some.inj (h.symm.trans h')
          exact absurd hword' (not_mem_offWords _ hword)
      | noSwitch h' => exact absurd (List.mem_append_left _ hword) (h' _ h)
  | off h hword =>
      cases h' with
      | on h' hword' =>
          obtain rfl := Option.some.inj (h.symm.trans h')
          exact absurd hword (not_mem_offWords _ hword')
      | off h' hword' => rfl
      | noSwitch h' => exact absurd (List.mem_append_right _ hword) (h' _ h)
  | noSwitch h =>
      cases h' with
      | on h' hword' => exact absurd (List.mem_append_left _ hword') (h _ h')
      | off h' hword' => exact absurd (List.mem_append_right _ hword') (h _ h')
      | noSwitch h' => rfl
  | number h hempty hn =>
      cases h' with
      | number h' hempty' hn' =>
          obtain rfl := Option.some.inj (h.symm.trans h')
          rw [Except.ok.inj (hn.symm.trans hn')]
      | noNumber h' => exact absurd (h' _ h) hempty
  | noNumber h =>
      cases h' with
      | number h' hempty' hn' => exact absurd (h _ h') hempty'
      | noNumber h' => rfl
  | nowhere =>
      cases h' with
      | nowhere => rfl

/-- A text comes from its variable, or else from the settings. -/
theorem gives_textVariable (env : Environment) (name : String) (default : Value) :
    Source.Gives env default (.text name) (textVariable env name default) := by
  unfold textVariable
  cases h : env.get? name with
  | none => exact .noText h
  | some text => exact .text h

/-- A blank text is none of the words. -/
theorem switchWord_of_blank {text : String} (h : Text.trim text = "") :
    switchWord text ∉ onWords ++ offWords := by
  rw [switchWord, h]
  decide

/-- A switch has a value in any case, and what it reports is right. -/
theorem switch_apply (env : Environment) (name : String) (default : Value) (c : σ) :
    ∃ lines v, switch env name default c = ⟨lines, .ok v, c⟩ ∧
      Source.Gives env default (.switch name) v ∧ Reports env name lines := by
  unfold switch
  cases h : env.get? name with
  | none =>
      refine ⟨[], default, rfl, .noSwitch ?_, .nothing ?_⟩
      · simp [h]
      · simp [h]
  | some text =>
      have hall : ∀ {p : String → Prop}, p text →
          ∀ text', env.get? name = some text' → p text' := by
        intro p hp text' htext'
        rwa [← Option.some.inj (h.symm.trans htext')]
      dsimp only
      split
      · rename_i hblank
        refine ⟨[], default, rfl, .noSwitch (hall (switchWord_of_blank hblank)), .nothing ?_⟩
        exact hall (.inl hblank)
      · rename_i hblank
        split
        · rename_i hon
          refine ⟨[], .bool true, rfl, .on h hon, .nothing ?_⟩
          exact hall (.inr (List.mem_append_left _ hon))
        · rename_i hon
          split
          · rename_i hoff
            refine ⟨[], .bool false, rfl, .off h hoff, .nothing ?_⟩
            exact hall (.inr (List.mem_append_right _ hoff))
          · rename_i hoff
            have hword : switchWord text ∉ onWords ++ offWords :=
              fun hmem => (List.mem_append.mp hmem).elim hon hoff
            exact ⟨[ignoredLine name text], default, rfl, .noSwitch (hall hword),
              .ignored h hblank hword⟩

/-- A number has a value unless its variable cannot be read. -/
theorem numberVariable_cases (env : Environment) (name : String) (default : Value) :
    (¬Unreadable env name ∧ ∃ v, numberVariable env name default = .ok v ∧
      Source.Gives env default (.number name) v) ∨
    (Unreadable env name ∧ ∃ fault, numberVariable env name default = .error fault ∧
      fault.kind = .value) := by
  unfold numberVariable Unreadable
  split
  · rename_i h
    exact .inl ⟨by simp [h], default, rfl, .noNumber (by simp [h])⟩
  · rename_i h
    exact .inl ⟨by simp [h], default, rfl, .noNumber (by simp [h])⟩
  · rename_i text hempty h
    have hne : text ≠ "" := hempty
    cases hn : Numeral.readInt text with
    | ok n =>
        refine .inl ⟨?_, .int n, rfl, .number h hne hn⟩
        rintro ⟨text', issue, htext', -, hissue⟩
        obtain rfl := Option.some.inj (h.symm.trans htext')
        cases hn.symm.trans hissue
    | error issue =>
        refine .inr ⟨⟨text, issue, h, hne, hn⟩, ?_⟩
        cases issue with
        | malformed => exact ⟨_, rfl, rfl⟩
        | tooLong digits => exact ⟨_, rfl, rfl⟩

/-! ### Making settings -/

/-- A variable that is a number cannot be read. -/
def IsUnreadable (env : Environment) : Prop :=
  ∃ (f : Field) (name : String), f.source = .number name ∧ Unreadable env name

/-- An environment cannot be read if one of its two numbers cannot. -/
theorem isUnreadable_iff {env : Environment} :
    IsUnreadable env ↔ Unreadable env "LOGMONGO_QUERY_LIMIT" ∨
      Unreadable env "LOGMONGO_SERVER_SELECTION_TIMEOUT_MS" := by
  constructor
  · rintro ⟨f, name, hsource, h⟩
    cases f with
    | queryLimit =>
        cases hsource
        exact .inl h
    | selectionTimeout =>
        cases hsource
        exact .inr h
    | _ => cases hsource
  · rintro (h | h)
    · exact ⟨.queryLimit, _, rfl, h⟩
    · exact ⟨.selectionTimeout, _, rfl, h⟩

/-- What making settings comes to. Each setting is what its source gives, over what is given, over
the default. There are no settings if a name is unknown, or if a number cannot be read. A switch
that has none of the words is reported. Nothing else changes. -/
structure Constructed (env : Environment) (values : List (String × Value)) (c : σ)
    (o : Outcome LogLine σ Settings) : Prop where
  state : o.state = c
  ok_iff : ∀ s, o.result = .ok s ↔ AreKnown values ∧ s.summaryHidden = none ∧
    ∀ f : Field, f.source.Gives env (initial values f) (s.get f)
  error_iff : (∃ fault, o.result = .error fault) ↔ ¬AreKnown values ∨ IsUnreadable env
  kind : ∀ fault, o.result = .error fault →
    fault.kind = .type ∧ ¬AreKnown values ∨ fault.kind = .value ∧ IsUnreadable env
  reports : AreKnown values → Reports env "LOGMONGO_IMMEDIATE" o.events
  silent : ¬AreKnown values → o.events = []

/-- The settings with what the texts in the environment say. -/
def textual (env : Environment) (s : Settings) : Settings :=
  textVariables.foldl (fun s p => s.set p.1 (textVariable env p.2 (s.get p.1))) s

/-- Once the switch is read, laying an environment over settings hangs on its numbers. -/
theorem overlay_apply {env : Environment} {s : Settings} {c : σ} {lines : List LogLine}
    {immediate : Value}
    (h : switch env "LOGMONGO_IMMEDIATE" s.immediate c = ⟨lines, .ok immediate, c⟩) :
    overlay env s c = ⟨lines, do
      let limit ← numberVariable env "LOGMONGO_QUERY_LIMIT" s.queryLimit
      let timeout ←
        numberVariable env "LOGMONGO_SERVER_SELECTION_TIMEOUT_MS" s.selectionTimeout
      return { textual env s with
        immediate := immediate, queryLimit := limit, selectionTimeout := timeout }, c⟩ := by
  refine (Act.bind_of_ok h).trans ?_
  dsimp only
  change Outcome.after lines ((Act.ofExcept (numberVariable env _ s.queryLimit) >>= fun limit =>
    Act.ofExcept (numberVariable env _ s.selectionTimeout) >>= fun timeout => pure
      { textual env s with
        immediate := immediate, queryLimit := limit, selectionTimeout := timeout }) c) = _
  cases numberVariable env "LOGMONGO_QUERY_LIMIT" s.queryLimit with
  | error fault => simp [Outcome.after, Act.bind_apply]; rfl
  | ok limit =>
      cases numberVariable env "LOGMONGO_SERVER_SELECTION_TIMEOUT_MS" s.selectionTimeout with
      | error fault => simp [Outcome.after, Act.bind_apply]; rfl
      | ok timeout => simp [Outcome.after, Act.bind_apply]; rfl

/-- The texts, the switch and the numbers in the environment, over settings that there are. -/
theorem overlay_cases (env : Environment) (s : Settings) (c : σ) :
    ∃ lines, Reports env "LOGMONGO_IMMEDIATE" lines ∧
      ((¬IsUnreadable env ∧ ∃ s', overlay env s c = ⟨lines, .ok s', c⟩ ∧
        s'.summaryHidden = s.summaryHidden ∧
        ∀ f : Field, f.source.Gives env (s.get f) (s'.get f)) ∨
      (IsUnreadable env ∧ ∃ fault, overlay env s c = ⟨lines, .error fault, c⟩ ∧
        fault.kind = .value)) := by
  obtain ⟨lines, immediate, hswitch, himmediate, hreports⟩ :=
    switch_apply env "LOGMONGO_IMMEDIATE" s.immediate c
  refine ⟨lines, hreports, ?_⟩
  rw [isUnreadable_iff, overlay_apply hswitch]
  rcases numberVariable_cases env "LOGMONGO_QUERY_LIMIT" s.queryLimit with
    ⟨hlimit, limit, hlimitValue, hlimitGives⟩ | ⟨hlimit, fault, hfault, hkind⟩
  · rcases numberVariable_cases env "LOGMONGO_SERVER_SELECTION_TIMEOUT_MS" s.selectionTimeout with
      ⟨htimeout, timeout, htimeoutValue, htimeoutGives⟩ | ⟨htimeout, fault, hfault, hkind⟩
    · rw [hlimitValue, htimeoutValue]
      refine .inl ⟨fun h => h.elim hlimit htimeout, _, rfl, rfl, ?_⟩
      intro f
      cases f with
      | immediate => exact himmediate
      | queryLimit => exact hlimitGives
      | selectionTimeout => exact htimeoutGives
      | lineFormat => exact .nowhere
      | _ => exact gives_textVariable env _ _
    · rw [hlimitValue, hfault]
      exact .inr ⟨.inr htimeout, fault, rfl, hkind⟩
  · rw [hfault]
    exact .inr ⟨.inl hlimit, fault, rfl, hkind⟩

/-- What cannot be read gives nothing. -/
theorem Unreadable.not_gives {env : Environment} {name : String} (h : Unreadable env name)
    (otherwise v : Value) : ¬Source.Gives env otherwise (.number name) v := by
  obtain ⟨text, issue, htext, hempty, hissue⟩ := h
  intro hgives
  cases hgives with
  | number h' hempty' hn =>
      obtain rfl := Option.some.inj (htext.symm.trans h')
      cases hissue.symm.trans hn
  | noNumber h' => exact hempty (h' text htext)

/-- **Making settings.**  It comes to what the environment, the given values and the defaults
say. -/
theorem constructed_make (env : Environment) (values : List (String × Value)) (c : σ) :
    Constructed env values c (make env values c) := by
  rcases given_cases values {} with ⟨hknown, s, hs, hsummary, hget⟩ | ⟨hunknown, fault, hs, hkind⟩
  · have hmake : make env values c = overlay env s c := by
      rw [make, hs]
      rfl
    obtain ⟨lines, hreports, hcases⟩ := overlay_cases env s c
    rcases hcases with ⟨hreadable, s', hs', hsummary', hgives⟩ | ⟨hunreadable, fault, hfault, hkind⟩
    · have hgives' : ∀ f : Field, f.source.Gives env (initial values f) (s'.get f) := by
        intro f
        rw [initial, ← hget]
        exact hgives f
      rw [hmake, hs']
      constructor
      · rfl
      · intro s₁
        constructor
        · intro h
          obtain rfl := Except.ok.inj h
          exact ⟨hknown, hsummary'.trans hsummary, hgives'⟩
        -- Each source gives one value only, so that there is one way for the settings to be.
        · rintro ⟨-, hsummary₁, hgives₁⟩
          have hsame : s' = s₁ := eq_of_get ((hsummary'.trans hsummary).trans hsummary₁.symm)
            fun f => (hgives' f).unique (hgives₁ f)
          rw [hsame]
      · simp [hknown, hreadable]
      · intro fault h
        cases h
      · exact fun _ => hreports
      · exact fun h => absurd hknown h
    · rw [hmake, hfault]
      constructor
      · rfl
      · intro s₁
        constructor
        · intro h
          cases h
        · rintro ⟨-, -, hgives⟩
          obtain ⟨f, name, hsource, h⟩ := hunreadable
          have hnumber := hgives f
          rw [hsource] at hnumber
          exact absurd hnumber (h.not_gives _ _)
      · simp [hunreadable]
      · intro fault' h
        obtain rfl := Except.error.inj h
        exact .inr ⟨hkind, hunreadable⟩
      · exact fun _ => hreports
      · exact fun h => absurd hknown h
  · have hmake : make env values c = ⟨[], .error fault, c⟩ := by
      rw [make, hs]
      rfl
    rw [hmake]
    constructor
    · rfl
    · simp [hunknown]
    · simp [hunknown]
    · intro fault' h
      obtain rfl := Except.error.inj h
      exact .inl ⟨hkind, hunknown⟩
    · exact fun h => absurd h hunknown
    · exact fun _ => rfl

end RequestLog.Settings
