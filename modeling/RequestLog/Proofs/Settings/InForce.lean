import Mathlib.Data.List.Induction
import RequestLog.Proofs.Settings.Construction

/-!
# The settings in force

The environment changes, settings are made, and the settings in force are asked for, changed and
dropped, in any order. Settings that have come into force stay the same ones until they are dropped,
with what has been configured since (`current_after`); none come into force where making them fails
(`none_after`). What one call does is said once (`Calls`). The main statement is
`governs_after`.
-/

namespace RequestLog.Configuration

open Settings

/-! ### Commands -/

/-- Asks for the settings in force, and perhaps changes them. -/
inductive Call where
  | ask
  | configure (values : List (Field × Value))

namespace Call

/-- What a call gives for the settings. -/
def values : Call → List (Field × Value)
  | ask => []
  | configure values => values

/-- Makes the call. -/
def perform : Call → Act LogLine Configuration (Nat × Settings)
  | ask => settings
  | configure values => Configuration.configure (values.map fun p => (p.1.name, p.2))

end Call

/-- What is done: a variable of the environment is set or removed, settings are made that do not
come into force, or those in force are called for or dropped. -/
inductive Command where
  | setVariable (name : String) (text : Option String)
  | make (values : List (String × Value))
  | call (k : Call)
  | reset

namespace Command

/-- Does what is commanded. -/
def perform : Command → Act LogLine Configuration Unit
  | setVariable name (some text) =>
    Act.modify fun c => { c with environment := c.environment.insert name text }
  | setVariable name none =>
    Act.modify fun c => { c with environment := c.environment.filter (·.1 != name) }
  | make values => do let _ ← Settings.make (← Act.get).environment values
  | call k => do let _ ← k.perform
  | reset => Act.modify Configuration.reset

/-- The variable that a command sets or removes. -/
def change? : Command → Option (String × Option String)
  | setVariable name text => some (name, text)
  | _ => none

/-- What a command gives for the settings in force. -/
def values : Command → List (Field × Value)
  | call k => k.values
  | _ => []

end Command

/-- The configuration after commands, whether they failed or not. -/
def after (c : Configuration) (commands : List Command) : Configuration :=
  Act.stateAfter Command.perform c commands

/-- Commands go on where those before them have left off. -/
theorem after_append (c : Configuration) (before since : List Command) :
    c.after (before ++ since) = (c.after before).after since :=
  Act.stateAfter_append ..

/-- The last command is performed on what those before it have left. -/
theorem after_concat (c : Configuration) (commands : List Command) (command : Command) :
    c.after (commands ++ [command]) = (command.perform (c.after commands)).state :=
  Act.stateAfter_concat ..

/-! ### What is configured -/

/-- A part of the target counts only if it is something. -/
def counts (p : Field × Value) : Bool := !p.1.isTarget || p.2.truth

/-- What is given last for a setting, of what counts. -/
def lastGiven (values : List (Field × Value)) (f : Field) : Option Value :=
  (values.filter fun p => p.1 == f && counts p).getLast?.map (·.2)

/-- The settings are others with what is given in their place. -/
def Overlays (values : List (Field × Value)) (s s' : Settings) : Prop :=
  ∀ f, s'.get f = (lastGiven values f).getD (s.get f)

/-- What is given later counts. -/
theorem lastGiven_append (values values' : List (Field × Value)) (f : Field) :
    lastGiven (values ++ values') f = (lastGiven values' f).or (lastGiven values f) := by
  rw [lastGiven, List.filter_append, List.getLast?_append, Option.map_or]
  rfl

/-- Without values nothing is changed. -/
theorem Overlays.refl (s : Settings) : Overlays [] s s := fun _ => rfl

/-- Two overlays one after the other are one overlay of all their values. -/
theorem Overlays.trans {values values' : List (Field × Value)} {s s' s'' : Settings}
    (h : Overlays values s s') (h' : Overlays values' s' s'') :
    Overlays (values ++ values') s s'' := by
  intro f
  rw [h', h, lastGiven_append]
  cases lastGiven values' f <;> rfl

/-- The target comes first, which makes no difference. -/
theorem lastGiven_partition (values : List (Field × Value)) (f : Field) :
    lastGiven (values.filter (·.1.isTarget) ++ values.filter (!·.1.isTarget)) f =
      lastGiven values f := by
  -- Which part a value belongs to depends on its setting alone, so that the values of one setting
  -- stay together and in order.
  have hkept : ∀ {q : Field × Value → Bool}, (∀ v, q (f, v) = true) →
      lastGiven (values.filter q) f = lastGiven values f := by
    intro q hq
    rw [lastGiven, List.filter_filter, lastGiven]
    congr 2
    apply List.filter_congr
    rintro ⟨g, v⟩ -
    by_cases hfield : g = f
    · simp [hfield, hq]
    · simp [hfield]
  have hdropped : ∀ {q : Field × Value → Bool}, (∀ v, q (f, v) = false) →
      lastGiven (values.filter q) f = none := by
    intro q hq
    rw [lastGiven, List.filter_filter, List.filter_eq_nil_iff.mpr]
    · rfl
    · rintro ⟨g, v⟩ -
      by_cases hfield : g = f
      · simp [hfield, hq]
      · simp [hfield]
  rw [lastGiven_append]
  cases htarget : f.isTarget with
  | true => rw [hdropped (by simp [htarget]), hkept (by simp [htarget]), Option.none_or]
  | false => rw [hkept (by simp [htarget]), hdropped (by simp [htarget]), Option.or_none]

/-- A value under the name of a field is set for the field. -/
theorem replace_name (s : Settings) (f : Field) (v : Value) :
    s.replace f.name v = .ok (s.set f v) := by
  cases f <;> rfl

/-- The names of the parts of a target are those of its fields. -/
theorem isTargetName_name (f : Field) : isTargetName f.name = f.isTarget := by
  rw [isTargetName, f.ofName?_name, Option.any_some]

/-- One value takes the place of another if it counts. -/
theorem assign_field (s : Settings) (f : Field) (v : Value) :
    s.assign f.name v = .ok (if counts (f, v) then s.set f v else s) := by
  have hcounts : counts (f, v) = !(f.isTarget && !v.truth) := by
    cases htarget : f.isTarget <;> simp [counts, htarget]
  rw [assign, isTargetName_name, hcounts]
  cases f.isTarget && !v.truth with
  | true => rfl
  | false => exact replace_name s f v

/-- One value is an overlay, which counts or does not. -/
theorem overlays_field (s : Settings) (f : Field) (v : Value) :
    Overlays [(f, v)] s (if counts (f, v) then s.set f v else s) := by
  intro g
  cases hcounts : counts (f, v) with
  | false => simp [lastGiven, hcounts]
  | true =>
      rw [if_pos rfl, get_set]
      by_cases hfield : g = f
      · simp [lastGiven, hfield, hcounts]
      · simp [lastGiven, hfield, Ne.symm hfield]

/-- Values that are given for settings can all be assigned. -/
theorem assignAll_names (values : List (Field × Value)) (s : Settings) :
    ∃ s', assignAll (values.map fun p => (p.1.name, p.2)) s = (.ok (), s') ∧
      Overlays values s s' := by
  induction values generalizing s with
  | nil => exact ⟨s, rfl, .refl s⟩
  | cons p rest ih =>
      obtain ⟨f, v⟩ := p
      obtain ⟨s', hrest, hlater⟩ := ih (if counts (f, v) then s.set f v else s)
      refine ⟨s', ?_, (overlays_field s f v).trans hlater⟩
      rw [List.map_cons, assignAll, assign_field]
      exact hrest

/-- What is configured is overlaid, and nothing fails. -/
theorem assignAll_configured (values : List (Field × Value)) (s : Settings) :
    let named := values.map fun p => (p.1.name, p.2)
    let parts := named.partition fun p => isTargetName p.1
    ∃ s', assignAll (parts.1 ++ parts.2) s = (.ok (), s') ∧ Overlays values s s' := by
  obtain ⟨s', hassigned, hoverlays⟩ := assignAll_names
    (values.filter (·.1.isTarget) ++ values.filter (!·.1.isTarget)) s
  refine ⟨s', ?_, fun f => lastGiven_partition values f ▸ hoverlays f⟩
  rw [← hassigned]
  simp only [List.partition_eq_filter_filter, List.filter_map, List.map_append,
    Function.comp_def, isTargetName_name]

/-! ### What one call does -/

/-- What a call comes to. Settings that are in force stay so, with what is given. Otherwise settings
are made of the environment as it is now, and come into force with what is given; where they cannot
be made nothing comes into force. -/
inductive Calls (k : Call) (c : Configuration) :
    Outcome LogLine Configuration (Nat × Settings) → Prop
  | standing {n : Nat} {s s' : Settings} (h : c.current = some (n, s))
      (hs : Overlays k.values s s') :
      Calls k c ⟨[], .ok (n, s'), { c with current := some (n, s') }⟩
  | failed {lines : List LogLine} {fault : Fault} (h : c.current = none)
      (hmake : Settings.make c.environment [] c = ⟨lines, .error fault, c⟩) :
      Calls k c ⟨lines, .error fault, c⟩
  | made {lines : List LogLine} {s s' : Settings} (h : c.current = none)
      (hmake : Settings.make c.environment [] c = ⟨lines, .ok s, c⟩)
      (hs : Overlays k.values s s') : Calls k c ⟨lines, .ok (c.made, s'),
        { c with current := some (c.made, s'), made := c.made + 1 }⟩

theorem calls_ask (c : Configuration) : Calls .ask c (settings c) := by
  obtain ⟨environment, current, number⟩ := c
  rw [settings, Act.bind_of_ok (Act.get_apply _), Outcome.after_nil]
  cases current with
  | some found => exact .standing rfl (.refl found.2)
  | none =>
      have hstate := (constructed_make environment [] (⟨environment, none, number⟩ :
        Configuration)).state
      dsimp only
      generalize hmake : Settings.make environment [] _ = o at hstate
      obtain ⟨lines, r, c'⟩ := o
      obtain rfl := hstate
      cases r with
      | error fault =>
          rw [Act.bind_of_error hmake]
          exact .failed rfl hmake
      | ok s =>
          rw [Act.bind_of_ok hmake, Act.bind_of_ok (Act.modify_apply _ _)]
          have hmade := Calls.made (k := .ask) (c := ⟨environment, none, number⟩) rfl hmake
            (.refl s)
          simpa [Outcome.after] using hmade

/-- Changing the settings in force is asking for them and then giving values. -/
theorem configure_of_settings {c c' : Configuration} {lines : List LogLine} {n : Nat}
    {s : Settings} (h : settings c = ⟨lines, .ok (n, s), c'⟩) (values : List (Field × Value)) :
    ∃ s', configure (values.map fun p => (p.1.name, p.2)) c =
        ⟨lines, .ok (n, s'), { c' with current := some (n, s') }⟩ ∧ Overlays values s s' := by
  obtain ⟨s', hassigned, hoverlays⟩ := assignAll_configured values s
  refine ⟨s', ?_, hoverlays⟩
  rw [configure, Act.bind_of_ok h]
  dsimp only at hassigned ⊢
  rw [hassigned]
  simp [Outcome.after, Act.bind_apply]

/-- **One call.**  It finds the settings that are in force, or makes them. -/
theorem Call.calls (k : Call) (c : Configuration) : Calls k c (k.perform c) := by
  cases k with
  | ask => exact calls_ask c
  | configure values =>
      have hask := calls_ask c
      generalize hsettings : settings c = o at hask
      cases hask with
      | @standing n s s₁ h hs =>
          obtain ⟨s', hconfigure, hoverlays⟩ := configure_of_settings hsettings values
          rw [perform, hconfigure]
          exact .standing h (hs.trans hoverlays)
      | failed h hmake =>
          rw [perform, Configuration.configure, Act.bind_of_error hsettings]
          exact .failed h hmake
      | made h hmake hs =>
          obtain ⟨s', hconfigure, hoverlays⟩ := configure_of_settings hsettings values
          rw [perform, hconfigure]
          exact .made h hmake (hs.trans hoverlays)

/-! ### What commands do -/

/-- Making settings changes nothing that is in force. -/
theorem state_make (values : List (String × Value)) (c : Configuration) :
    ((Command.make values).perform c).state = c := by
  rw [Command.perform, Act.bind_of_ok (Act.get_apply c), Act.bind_pure_apply]
  exact (constructed_make c.environment values c).state

/-- A call as a command changes what it changes as a call. -/
theorem state_call (k : Call) (c : Configuration) :
    ((Command.call k).perform c).state = (k.perform c).state := by
  rw [Command.perform, Act.bind_pure_apply]

/-- Without the entry of a name the others are as they were. -/
theorem get?_filter_ne (env : Environment) (name other : String) :
    (env.filter (·.1 != name)).get? other = if other = name then none else env.get? other := by
  change (env.entries.filter _).lookup other = if other = name then none else env.entries.lookup _
  induction env.entries with
  | nil => simp
  | cons head rest ih =>
      obtain ⟨key, text⟩ := head
      by_cases hkey : key = name
      · by_cases hother : other = name
        · simpa [hkey, hother] using ih
        · simpa [hkey, hother, List.lookup_cons, beq_eq_false_iff_ne.mpr hother] using ih
      · by_cases hother : other = key
        · simp [hkey, hother]
        · simpa [hkey, List.lookup_cons, beq_eq_false_iff_ne.mpr hother] using ih

/-- A variable is as it was unless it is set or removed. -/
theorem environment_perform (command : Command) (c : Configuration) (name : String) :
    (command.perform c).state.environment.get? name =
      (command.change?.toList.lookup name).getD (c.environment.get? name) := by
  cases command with
  | setVariable changed text =>
      have hlookup : ∀ otherwise : Option String,
          ([(changed, text)].lookup name).getD otherwise =
            if name = changed then text else otherwise := by
        intro otherwise
        by_cases hname : name = changed
        · simp [hname]
        · simp [hname, List.lookup_cons, beq_eq_false_iff_ne.mpr hname]
      refine Eq.trans ?_ (hlookup _).symm
      cases text with
      | none => exact get?_filter_ne c.environment changed name
      | some text => exact c.environment.get?_insert changed name text
  | make values => rw [state_make]; rfl
  | call k =>
      rw [state_call]
      have hcalls := k.calls c
      generalize k.perform c = o at hcalls ⊢
      cases hcalls <;> rfl
  | reset => rfl

/-- Every variable is what it was set to last. -/
theorem environment_after (c : Configuration) (commands : List Command) (name : String) :
    (c.after commands).environment.get? name =
      ((commands.filterMap (·.change?)).reverse.lookup name).getD (c.environment.get? name) := by
  induction commands using List.reverseRecOn with
  | nil => rfl
  | append_singleton commands command ih =>
      rw [after_concat, environment_perform, ih, Act.lookup_filterMap_concat]
      cases command.change?.toList.lookup name <;> rfl

/-- Settings that are in force stay so, with what is given. -/
theorem current_perform {c : Configuration} {n : Nat} {s : Settings}
    (h : c.current = some (n, s)) {command : Command} (hreset : command ≠ .reset) :
    ∃ s', (command.perform c).state.current = some (n, s') ∧ Overlays command.values s s' := by
  cases command with
  | setVariable name text => exact ⟨s, by cases text <;> exact h, .refl s⟩
  | make values => exact ⟨s, by rw [state_make, h], .refl s⟩
  | call k =>
      rw [state_call]
      have hcalls := k.calls c
      generalize k.perform c = o at hcalls ⊢
      cases hcalls with
      | standing hcurrent hs =>
          cases h.symm.trans hcurrent
          exact ⟨_, rfl, hs⟩
      | failed hcurrent hmake => cases h.symm.trans hcurrent
      | made hcurrent hmake hs => cases h.symm.trans hcurrent
  | reset => exact absurd rfl hreset

/-- **Settings in force.**  They are the same ones as long as they are not dropped, with what has
been given since. -/
theorem current_after {c : Configuration} {n : Nat} {s : Settings}
    (h : c.current = some (n, s)) {commands : List Command} (hreset : .reset ∉ commands) :
    ∃ s', (c.after commands).current = some (n, s') ∧
      Overlays (commands.flatMap (·.values)) s s' := by
  induction commands using List.reverseRecOn with
  | nil => exact ⟨s, h, .refl s⟩
  | append_singleton commands command ih =>
      obtain ⟨s₁, hbefore, hoverlays⟩ := ih fun hmem => hreset (List.mem_append_left _ hmem)
      have hlastKept : command ≠ .reset := fun heq => hreset (by simp [heq])
      obtain ⟨s', hafter, hlast⟩ := current_perform hbefore hlastKept
      refine ⟨s', by rw [after_concat, hafter], ?_⟩
      rw [List.flatMap_append, List.flatMap_singleton]
      exact hoverlays.trans hlast

/-- A call fails, so that no settings are there. -/
def Call.Fails (k : Call) (c : Configuration) : Prop := ∃ fault, (k.perform c).result = .error fault

/-- While calls fail, no settings come into force. -/
theorem none_perform {c : Configuration} (h : c.current = none) {command : Command}
    (hfails : ∀ k, command = .call k → k.Fails c) : (command.perform c).state.current = none := by
  cases command with
  | setVariable name text => cases text <;> exact h
  | make values => rw [state_make, h]
  | call k =>
      obtain ⟨fault, hfault⟩ := hfails k rfl
      rw [state_call]
      have hcalls := k.calls c
      generalize k.perform c = o at hcalls hfault ⊢
      cases hcalls with
      | standing hcurrent hs => cases hfault
      | failed hcurrent hmake => exact hcurrent
      | made hcurrent hmake hs => cases hfault
  | reset => rfl

/-- **No settings in force.**  There are none as long as every call for them fails. -/
theorem none_after {c : Configuration} (h : c.current = none) {commands : List Command}
    (hfails : ∀ before k since, commands = before ++ .call k :: since → k.Fails (c.after before)) :
    (c.after commands).current = none := by
  induction commands using List.reverseRecOn with
  | nil => exact h
  | append_singleton commands command ih =>
      rw [after_concat]
      refine none_perform (ih fun before k since heq => ?_) fun k heq => ?_
      · exact hfails before k (since ++ [command]) (by simp [heq])
      · exact hfails commands k [] (by rw [heq])

/-- The number of the settings in force has been used. -/
def IsNumbered (c : Configuration) : Prop := ∀ n s, c.current = some (n, s) → n < c.made

/-- No number is used twice. -/
theorem made_perform {c : Configuration} (h : c.IsNumbered) (command : Command) :
    c.made ≤ (command.perform c).state.made ∧ (command.perform c).state.IsNumbered := by
  cases command with
  | setVariable name text => cases text <;> exact ⟨Nat.le_refl _, h⟩
  | make values =>
      rw [state_make]
      exact ⟨Nat.le_refl _, h⟩
  | call k =>
      rw [state_call]
      have hcalls := k.calls c
      generalize k.perform c = o at hcalls ⊢
      cases hcalls with
      | standing hcurrent hs =>
          refine ⟨Nat.le_refl _, fun n s hnew => ?_⟩
          cases hnew
          exact h _ _ hcurrent
      | failed hcurrent hmake => exact ⟨Nat.le_refl _, h⟩
      | made hcurrent hmake hs =>
          refine ⟨Nat.le_succ _, fun n s hnew => ?_⟩
          cases hnew
          exact Nat.lt_succ_self _
  | reset => exact ⟨Nat.le_refl _, fun n s hnew => nomatch hnew⟩

/-- The number of settings made never falls, and tells them apart. -/
theorem made_after {c : Configuration} (h : c.IsNumbered) (commands : List Command) :
    c.made ≤ (c.after commands).made ∧ (c.after commands).IsNumbered := by
  induction commands using List.reverseRecOn with
  | nil => exact ⟨Nat.le_refl _, h⟩
  | append_singleton commands command ih =>
      obtain ⟨hmade, hnumbered⟩ := made_perform ih.2 command
      rw [after_concat]
      exact ⟨Nat.le_trans ih.1 hmade, hnumbered⟩

/-! ### What commands come to -/

/-- No settings are in force, and none have been made. -/
def start (env : Environment) : Configuration := { environment := env }

/-- The beginning of a time in which no settings have come into force yet. -/
def IsBeginning (commands : List Command) : Prop :=
  commands = [] ∨ ∃ earlier, commands = earlier ++ [.reset]

/-- What the configuration is after commands that began with this environment. Every variable is
what it was set to last, and settings are made of these variables, which puts nothing into force and
changes nothing. The first call that succeeds since settings were dropped makes them of the
variables as they are then, under a number that was not used before; a call that fails puts nothing
into force. From then on all calls give the settings of this number until they are dropped, with
what has been given since. -/
structure Governs (env : Environment) (commands : List Command) (c : Configuration) : Prop where
  environment : ∀ name, c.environment.get? name =
    ((commands.filterMap (·.change?)).reverse.lookup name).getD (env.get? name)
  constructed : ∀ values, Constructed c.environment values c (Settings.make c.environment values c)
  aside : ∀ values, ((Command.make values).perform c).state = c
  first : ∀ before since, commands = before ++ since → IsBeginning before →
    (∀ earlier k later, since = earlier ++ .call k :: later →
      k.Fails ((start env).after (before ++ earlier))) →
    ∀ k : Call,
      (k.perform c).events = (Settings.make c.environment [] c).events ∧
      (∀ fault, (Settings.make c.environment [] c).result = .error fault →
        (k.perform c).result = .error fault) ∧
      ∀ s, (Settings.make c.environment [] c).result = .ok s →
        ∃ s', (k.perform c).result = .ok (c.made, s') ∧ Overlays k.values s s'
  fresh : ∀ before k since n s, commands = before ++ .call k :: since →
    (k.perform ((start env).after before)).result = .ok (n, s) → n < c.made
  standing : ∀ before k since n s, commands = before ++ .call k :: since →
    (k.perform ((start env).after before)).result = .ok (n, s) → .reset ∉ since →
    ∀ next : Call, (next.perform c).events = [] ∧
      ∃ s', (next.perform c).result = .ok (n, s') ∧
        Overlays (since.flatMap (·.values) ++ next.values) s s'
  failed : ∀ (k : Call) fault, (k.perform c).result = .error fault →
    (k.perform c).state = c ∧ fault.kind = .value ∧ IsUnreadable c.environment

section Calls

variable {k : Call} {c : Configuration} {o : Outcome LogLine Configuration (Nat × Settings)}

/-- A call for settings where none are in force. -/
theorem Calls.first (h : Calls k c o) (hnone : c.current = none) :
    o.events = (Settings.make c.environment [] c).events ∧
      (∀ fault, (Settings.make c.environment [] c).result = .error fault →
        o.result = .error fault) ∧
      ∀ s, (Settings.make c.environment [] c).result = .ok s →
        ∃ s', o.result = .ok (c.made, s') ∧ Overlays k.values s s' := by
  cases h with
  | standing h hs => cases hnone.symm.trans h
  | failed h hmake =>
      rw [hmake]
      refine ⟨rfl, fun fault hfault => ?_, fun s hs => ?_⟩
      · cases hfault
        rfl
      · cases hs
  | @made lines s s' h hmake hs =>
      rw [hmake]
      refine ⟨rfl, fun fault hfault => ?_, fun s₁ hs₁ => ?_⟩
      · cases hfault
      · cases hs₁
        exact ⟨s', rfl, hs⟩

/-- A call that succeeds leaves its settings in force. -/
theorem Calls.current (h : Calls k c o) {n : Nat} {s : Settings} (hresult : o.result = .ok (n, s)) :
    o.state.current = some (n, s) := by
  cases h with
  | standing h hs =>
      cases hresult
      rfl
  | failed h hmake => cases hresult
  | made h hmake hs =>
      cases hresult
      rfl

/-- A call for settings that are in force. -/
theorem Calls.of_current (h : Calls k c o) {n : Nat} {s : Settings}
    (hcurrent : c.current = some (n, s)) :
    o.events = [] ∧ ∃ s', o.result = .ok (n, s') ∧ Overlays k.values s s' := by
  cases h with
  | @standing n' s₀ s' h hs =>
      cases hcurrent.symm.trans h
      exact ⟨rfl, s', rfl, hs⟩
  | failed h hmake => cases hcurrent.symm.trans h
  | made h hmake hs => cases hcurrent.symm.trans h

/-- A call that fails leaves everything as it is, and fails for a number that cannot be read. -/
theorem Calls.of_error (h : Calls k c o) {fault : Fault} (hresult : o.result = .error fault) :
    o.state = c ∧ fault.kind = .value ∧ IsUnreadable c.environment := by
  cases h with
  | standing h hs => cases hresult
  | failed h hmake =>
      cases hresult
      have hconstructed := constructed_make c.environment [] c
      rw [hmake] at hconstructed
      refine ⟨rfl, ?_⟩
      rcases hconstructed.kind fault rfl with ⟨-, hunknown⟩ | hvalue
      · exact absurd (List.forall_mem_nil _) hunknown
      · exact hvalue
  | made h hmake hs => cases hresult

end Calls

/-- A call that succeeded, and what was done since. -/
theorem after_call (env : Environment) (before : List Command) (k : Call) (since : List Command) :
    (start env).after (before ++ .call k :: since) =
      (k.perform ((start env).after before)).state.after since := by
  rw [after_append, ← state_call]
  rfl

/-- **Settings over all commands.**  Whatever is done, in whatever order, what every call gives is
told by the commands before it. -/
theorem governs_after (env : Environment) (commands : List Command) :
    Governs env commands ((start env).after commands) where
  environment name := environment_after (start env) commands name
  constructed values := constructed_make _ values _
  aside values := state_make values _
  first := by
    rintro before since rfl hbeginning hfails k
    refine (k.calls _).first ?_
    rw [after_append]
    refine none_after ?_ fun earlier k later hsince => ?_
    · rcases hbeginning with rfl | ⟨earlier, rfl⟩
      · rfl
      · rw [after_concat]
        rfl
    · rw [← after_append]
      exact hfails earlier k later hsince
  fresh := by
    rintro before k since n s rfl hresult
    have hstart : (start env).IsNumbered := fun n s h => nomatch h
    have hbefore := (made_after hstart before).2
    have hcalled := (made_perform hbefore (.call k)).2
    rw [state_call] at hcalled
    have hcurrent := (k.calls _).current hresult
    rw [after_call]
    exact Nat.lt_of_lt_of_le (hcalled n s hcurrent) (made_after hcalled since).1
  standing := by
    rintro before k since n s rfl hresult hreset next
    obtain ⟨s₁, hcurrent, hsince⟩ := current_after ((k.calls _).current hresult) hreset
    rw [← after_call] at hcurrent
    obtain ⟨hevents, s', hnext, hoverlays⟩ := (next.calls _).of_current hcurrent
    exact ⟨hevents, s', hnext, hsince.trans hoverlays⟩
  failed k fault hresult := (k.calls _).of_error hresult

/-- A number that cannot be read keeps settings from being made. When it has been set right they are
made, and stay as they are though the variable is removed and an empty name is given. -/
example :
    let c := (start Table.empty).after
      [.setVariable "LOGMONGO_QUERY_LIMIT" (some "many"), .call .ask,
        .setVariable "LOGMONGO_QUERY_LIMIT" (some "50"),
        .call (.configure [(.database, .text "logs")]),
        .setVariable "LOGMONGO_QUERY_LIMIT" none, .call (.configure [(.database, .text "")])]
    (settings c).result.map (fun p => (p.1, p.2.queryLimit, p.2.database)) =
      .ok (0, .int 50, .text "logs") := by rfl

end RequestLog.Configuration
