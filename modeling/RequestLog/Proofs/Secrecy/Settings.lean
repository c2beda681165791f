import Mathlib.Data.List.Forall2
import RequestLog.Proofs.Settings.InForce
import RequestLog.Proofs.Twin

/-!
# Settings with one address or another

Two addresses are put in each other's place, wherever an address can be given: in the environment,
when settings are made, and when those in force are changed. Settings that come of this are the same
but for the address (`Settings.Alike`), and whatever else is seen of making and changing them is the
same: the lines in the log, and the faults (`twin_make`, `twin_settings`, `twin_configure`). Neither
does a summary tell which address it was (`Settings.Alike.summary`).
-/

namespace RequestLog

/-- The values are the same, or the one address and the other. -/
inductive AddressAlike (u v : String) : Value → Value → Prop
  | same (a : Value) : AddressAlike u v a a
  | address : AddressAlike u v (.text u) (.text v)

namespace AddressAlike

variable {u v : String} {a a' b b' : Value}

/-- Neither address is empty, so both count as given. -/
theorem truth (hu : u ≠ "") (hv : v ≠ "") (h : AddressAlike u v a a') : a.truth = a'.truth := by
  cases h with
  | same => rfl
  | address =>
      have hu' : u.isEmpty = false := by simpa [String.isEmpty_iff] using hu
      have hv' : v.isEmpty = false := by simpa [String.isEmpty_iff] using hv
      simp [Value.truth, hu', hv']

/-- A value that takes the place of a missing one is alike if both are. -/
theorem orElse (hu : u ≠ "") (hv : v ≠ "") (h : AddressAlike u v a a')
    (h' : AddressAlike u v b b') : AddressAlike u v (a.orElse b) (a'.orElse b') := by
  unfold Value.orElse
  rw [h.truth hu hv]
  split
  · exact h
  · exact h'

end AddressAlike

namespace Settings

variable {u v : String} {σ : Type} {S : σ → σ → Prop}

/-- The values for a setting are the same, or one address and the other for the address. -/
def FieldAlike (u v : String) (f : Field) (w w' : Value) : Prop :=
  match f with
  | .address => AddressAlike u v w w'
  | _ => w = w'

/-- What is given under a name is the same, or one address and the other for the address. -/
inductive EntryAlike (u v : String) : String × Value → String × Value → Prop
  | same (p : String × Value) : EntryAlike u v p p
  | address : EntryAlike u v (Field.name .address, .text u) (Field.name .address, .text v)

/-- The settings are the same but for the address. -/
structure Alike (u v : String) (s s' : Settings) : Prop where
  fields : ∀ f, FieldAlike u v f (s.get f) (s'.get f)
  summaryHidden : s.summaryHidden = s'.summaryHidden

/-- The variable that holds an address. -/
def addressVariable : String := "MONGODB_URI"

/-- The variables are the same, but for the one that holds an address. -/
def Environment.Alike (u v : String) (env env' : Environment) : Prop :=
  ∀ name, env.get? name = env'.get? name ∨
    name = addressVariable ∧ env.get? name = some u ∧ env'.get? name = some v

/-! ### Fields -/

/-- A value is like itself, whatever the field. -/
theorem FieldAlike.refl (f : Field) (w : Value) : FieldAlike u v f w w := by
  cases f with
  | address => exact .same w
  | _ => rfl

namespace Alike

variable {s s' : Settings}

/-- Settings are like themselves. -/
theorem refl (s : Settings) : Alike u v s s := ⟨fun f => .refl f _, rfl⟩

/-- Settings stay alike if values that are alike are set. -/
theorem set (h : Alike u v s s') {f : Field} {w w' : Value} (hw : FieldAlike u v f w w') :
    Alike u v (s.set f w) (s'.set f w') := by
  refine ⟨fun g => ?_, ?_⟩
  · rw [get_set, get_set]
    split
    · next hg => exact hg ▸ hw
    · exact h.fields g
  · rw [summaryHidden_set, summaryHidden_set]
    exact h.summaryHidden

/-- **Summaries.**  The summaries of settings that are the same but for the address are the same. -/
theorem summary (hu : u ≠ "") (hv : v ≠ "") (h : Alike u v s s') : s.summary = s'.summary := by
  have haddress : s.address.truth = s'.address.truth := (h.fields .address).truth hu hv
  have hdatabase : s.database = s'.database := h.fields .database
  have hcollection : s.collection = s'.collection := h.fields .collection
  have htimeout : s.selectionTimeout = s'.selectionTimeout := h.fields .selectionTimeout
  have hformat : s.format = s'.format := h.fields .format
  have himmediate : s.immediate = s'.immediate := h.fields .immediate
  have hlimit : s.queryLimit = s'.queryLimit := h.fields .queryLimit
  have hlevel : s.logLevel = s'.logLevel := h.fields .logLevel
  have hchannels : s.debugChannels = s'.debugChannels := h.fields .debugChannels
  unfold Settings.summary
  rw [h.summaryHidden, haddress, hdatabase, hcollection, htimeout, hformat, himmediate, hlimit,
    hlevel, hchannels]

end Alike

/-! ### Making settings -/

section Environments

variable {env env' : Environment}

/-- Environments that are alike differ in the variable for the address only. -/
theorem Environment.Alike.get? (h : Environment.Alike u v env env') {name : String}
    (hname : name ≠ addressVariable) : env.get? name = env'.get? name := by
  rcases h name with h | ⟨h, -, -⟩
  · exact h
  · exact (hname h).elim

/-- A switch that the environment turns is turned alike. -/
theorem twin_switch (h : Environment.Alike u v env env') {name : String}
    (hname : name ≠ addressVariable) {w w' : Value} (hw : w = w') :
    Act.Twin Eq S Eq (switch env name w) (switch env' name w') := by
  unfold switch
  rw [h.get? hname, hw]
  split
  · exact Act.twin_pure rfl
  · dsimp only
    split
    · exact Act.twin_pure rfl
    · split
      · exact Act.twin_pure rfl
      · split
        · exact Act.twin_pure rfl
        · exact (Act.twin_note rfl).bind_eq fun _ => Act.twin_pure rfl

/-- A number that the environment gives is the same. -/
theorem numberVariable_eq (h : Environment.Alike u v env env') {name : String}
    (hname : name ≠ addressVariable) {w w' : Value} (hw : w = w') :
    numberVariable env name w = numberVariable env' name w' := by
  unfold numberVariable
  rw [h.get? hname, hw]

/-- A text that the environment gives for a field is alike as the field has it. -/
theorem textVariable_alike (h : Environment.Alike u v env env') {f : Field} {name : String}
    (hname : name = addressVariable → f = .address) {w w' : Value} (hw : FieldAlike u v f w w') :
    FieldAlike u v f (textVariable env name w) (textVariable env' name w') := by
  unfold textVariable
  rcases h name with hsame | ⟨haddress, hu, hv⟩
  · rw [hsame]
    cases env'.get? name with
    | none => exact hw
    | some text => exact .refl f _
  · rw [hu, hv, hname haddress]
    exact .address

/-- The fields that are texts are overlaid alike. -/
theorem textual_alike (h : Environment.Alike u v env env') {s s' : Settings} (hs : Alike u v s s') :
    Alike u v (textual env s) (textual env' s') := by
  have hvariables : ∀ p ∈ textVariables, p.2 = addressVariable → p.1 = .address := by decide
  unfold textual
  generalize textVariables = table at hvariables
  induction table generalizing s s' with
  | nil => exact hs
  | cons p rest ih =>
      have hp := textVariable_alike h (hvariables p List.mem_cons_self) (hs.fields p.1)
      exact ih (hs.set hp) fun q hq => hvariables q (List.mem_cons_of_mem p hq)

/-- An environment is laid over settings alike. -/
theorem twin_overlay (h : Environment.Alike u v env env') {s s' : Settings} (hs : Alike u v s s') :
    Act.Twin Eq S (Alike u v) (overlay env s) (overlay env' s') := by
  have htextual := textual_alike h hs
  have himmediate : (textual env s).immediate = (textual env' s').immediate :=
    htextual.fields .immediate
  have hlimit : numberVariable env "LOGMONGO_QUERY_LIMIT" (textual env s).queryLimit =
      numberVariable env' "LOGMONGO_QUERY_LIMIT" (textual env' s').queryLimit :=
    numberVariable_eq h (by decide) (htextual.fields .queryLimit)
  have htimeout :
      numberVariable env "LOGMONGO_SERVER_SELECTION_TIMEOUT_MS" (textual env s).selectionTimeout =
        numberVariable env' "LOGMONGO_SERVER_SELECTION_TIMEOUT_MS"
          (textual env' s').selectionTimeout :=
    numberVariable_eq h (by decide) (htextual.fields .selectionTimeout)
  refine Act.Twin.bind_eq (twin_switch h (by decide) himmediate) fun immediate => ?_
  refine Act.Twin.bind_eq (Act.twin_ofExcept_eq hlimit) fun limit => ?_
  refine Act.Twin.bind_eq (Act.twin_ofExcept_eq htimeout) fun timeout => Act.twin_pure ?_
  have hset : Alike u v
      ((((textual env s).set .immediate immediate).set .queryLimit limit).set .selectionTimeout
        timeout)
      ((((textual env' s').set .immediate immediate).set .queryLimit limit).set .selectionTimeout
        timeout) :=
    ((htextual.set (.refl _ _)).set (.refl _ _)).set (.refl _ _)
  exact hset

/-- Settings are given values alike, or refuse the same one. -/
theorem given_alike {values values' : List (String × Value)}
    (hvalues : List.Forall₂ (EntryAlike u v) values values') {s s' : Settings}
    (hs : Alike u v s s') : ResultsAlike (Alike u v) (given values s) (given values' s') := by
  induction hvalues generalizing s s' with
  | nil => exact .ok hs
  | @cons p p' rest rest' hp _ ih =>
      obtain ⟨name, w⟩ := p
      cases hp with
      | same =>
          unfold given
          split
          · exact ih (hs.set (.refl _ w))
          · exact .error _
      | address =>
          simp only [given, Field.ofName?_name]
          exact ih (hs.set .address)

/-- Settings are made alike. -/
theorem twin_make (h : Environment.Alike u v env env') {values values' : List (String × Value)}
    (hvalues : List.Forall₂ (EntryAlike u v) values values') :
    Act.Twin Eq S (Alike u v) (make env values) (make env' values') :=
  (Act.twin_ofExcept (given_alike hvalues (.refl {}))).bind fun _ _ hs => twin_overlay h hs

end Environments

/-! ### Changing settings -/

section Entries

variable {s s' : Settings} {values values' : List (String × Value)} {p p' : String × Value}

/-- Values that are alike stand under the same name. -/
theorem EntryAlike.name (h : EntryAlike u v p p') : p.1 = p'.1 := by
  cases h <;> rfl

/-- A value replaces another one alike. -/
theorem replace_alike (hs : Alike u v s s') (h : EntryAlike u v p p') :
    ResultsAlike (Alike u v) (s.replace p.1 p.2) (s'.replace p'.1 p'.2) := by
  cases h with
  | address =>
      rw [Configuration.replace_name, Configuration.replace_name]
      exact .ok (hs.set .address)
  | same =>
      unfold replace
      split
      · exact .error _
      · exact .error _
      · split
        · exact .ok (.refl _)
        · exact .error _
      · exact .error _
      · unfold putEntry
        split
        · exact .ok (hs.set (.refl _ _))
        · split
          · exact .ok ⟨hs.fields, rfl⟩
          · exact .ok hs

/-- A value is assigned alike, or refused alike. -/
theorem assign_alike (hu : u ≠ "") (hv : v ≠ "") (hs : Alike u v s s') (h : EntryAlike u v p p') :
    ResultsAlike (Alike u v) (s.assign p.1 p.2) (s'.assign p'.1 p'.2) := by
  have htruth : p.2.truth = p'.2.truth := by
    cases h with
    | same => rfl
    | address => exact AddressAlike.address.truth hu hv
  unfold assign
  rw [htruth, h.name]
  split
  · exact .ok hs
  · have hreplace := replace_alike hs h
    rwa [h.name] at hreplace

/-- Values are assigned alike up to the first that is refused. -/
theorem assignAll_alike (hu : u ≠ "") (hv : v ≠ "")
    (hvalues : List.Forall₂ (EntryAlike u v) values values') (hs : Alike u v s s') :
    (assignAll values s).1 = (assignAll values' s').1 ∧
      Alike u v (assignAll values s).2 (assignAll values' s').2 := by
  induction hvalues generalizing s s' with
  | nil => exact ⟨rfl, hs⟩
  | @cons p p' rest rest' hp _ ih =>
      have hassign := assign_alike hu hv hs hp
      simp only [assignAll]
      generalize s.assign p.1 p.2 = r at hassign
      generalize s'.assign p'.1 p'.2 = r' at hassign
      cases hassign with
      | ok h => exact ih h
      | error f => exact ⟨rfl, hs⟩

/-- The entries that are for the target, and the others. -/
theorem partition_alike (hvalues : List.Forall₂ (EntryAlike u v) values values') :
    List.Forall₂ (EntryAlike u v)
      ((values.partition fun p => isTargetName p.1).1 ++
        (values.partition fun p => isTargetName p.1).2)
      ((values'.partition fun p => isTargetName p.1).1 ++
        (values'.partition fun p => isTargetName p.1).2) := by
  simp only [List.partition_eq_filter_filter]
  refine List.rel_append ?_ ?_
  · exact List.rel_filter (fun p p' h => by simp only [h.name]) hvalues
  · exact List.rel_filter (fun p p' h => by simp only [Function.comp, h.name]) hvalues

end Entries

end Settings

/-! ### The settings in force -/

/-- The numbers are the same, and the settings under them but for the address. -/
def Configuration.PairAlike (u v : String) (p p' : Nat × Settings) : Prop :=
  p.1 = p'.1 ∧ Settings.Alike u v p.2 p'.2

/-- The configurations are the same but for the address, wherever it stands. -/
structure Configuration.Alike (u v : String) (c c' : Configuration) : Prop where
  environment : Settings.Environment.Alike u v c.environment c'.environment
  current : Option.Rel (PairAlike u v) c.current c'.current
  made : c.made = c'.made

namespace Configuration

variable {u v : String}

/-- **Settings in force.**  Asking for the settings in force does not tell which address it is. -/
theorem twin_settings : Act.Twin Eq (Alike u v) (PairAlike u v) settings settings := by
  refine Act.Twin.bind Act.twin_get fun c c' hc => ?_
  have hcurrent := hc.current
  generalize c.current = found at hcurrent
  generalize c'.current = found' at hcurrent
  cases hcurrent with
  | some h => exact Act.twin_pure h
  | none =>
      refine (Settings.twin_make hc.environment .nil).bind fun s s' hs => ?_
      refine Act.Twin.bind_eq (Act.twin_modify fun d d' hd => ?_) fun _ =>
        Act.twin_pure ⟨hc.made, hs⟩
      exact ⟨hd.environment, .some ⟨hd.made, hs⟩, congrArg (· + 1) hd.made⟩

/-- **Configuring.**  Changing the settings in force does not tell which address it is. -/
theorem twin_configure (hu : u ≠ "") (hv : v ≠ "") {values values' : List (String × Value)}
    (hvalues : List.Forall₂ (Settings.EntryAlike u v) values values') :
    Act.Twin Eq (Alike u v) (PairAlike u v) (configure values) (configure values') := by
  refine Act.Twin.bind twin_settings fun p p' hp => ?_
  obtain ⟨hresult, hs⟩ :=
    Settings.assignAll_alike hu hv (Settings.partition_alike hvalues) hp.2
  refine Act.Twin.bind_eq (Act.twin_modify fun c c' hc => ?_) fun _ => ?_
  · exact ⟨hc.environment, .some ⟨hp.1, hs⟩, hc.made⟩
  · exact Act.Twin.bind_eq (Act.twin_ofExcept_eq hresult) fun _ => Act.twin_pure ⟨hp.1, hs⟩

/-- A variable is set to the same on both sides, or removed. -/
theorem twin_setVariable (name : String) (text : Option String) :
    Act.Twin Eq (Alike u v) Eq (Command.setVariable name text).perform
      (Command.setVariable name text).perform := by
  cases text with
  | none =>
      refine Act.twin_modify fun c c' hc => ⟨fun other => ?_, hc.current, hc.made⟩
      rw [get?_filter_ne, get?_filter_ne]
      split
      · exact .inl rfl
      · exact hc.environment other
  | some text =>
      refine Act.twin_modify fun c c' hc => ⟨fun other => ?_, hc.current, hc.made⟩
      rw [Table.get?_insert, Table.get?_insert]
      split
      · exact .inl rfl
      · exact hc.environment other

/-- The variable that holds an address is set to one address and the other. -/
theorem twin_setAddress :
    Act.Twin Eq (Alike u v) Eq (Command.setVariable Settings.addressVariable (some u)).perform
      (Command.setVariable Settings.addressVariable (some v)).perform := by
  refine Act.twin_modify fun c c' hc => ⟨fun other => ?_, hc.current, hc.made⟩
  rw [Table.get?_insert, Table.get?_insert]
  split
  · next hother => exact .inr ⟨hother, rfl, rfl⟩
  · exact hc.environment other

/-- The configurations are alike after the settings in force have been dropped. -/
theorem Alike.reset {c c' : Configuration} (h : Alike u v c c') : Alike u v c.reset c'.reset :=
  ⟨h.environment, .none, h.made⟩

end Configuration

end RequestLog
