import Mathlib.Data.List.Nodup
import Mathlib.Data.List.TakeWhile
import RequestLog.Log.Setup

/-!
# Setting up the log again and again

The log is set up, and its channels are opened, by calls that may fail midway (`Command`). Whatever
was called, a setup stays sound: no handler is there twice, and a channel is open or has no level
(`IsSound`, `isSound_after`). A sound setup writes an entry to each handler once if its level
passes, and not at all otherwise (`lines_of_isSound`). The main statement is `install_forgets`: what
a call that sets the log up leaves behind hangs on its arguments alone.
-/

namespace RequestLog.Log

namespace DebugChannel

/-- The name of the logger of a channel. -/
def loggerName (c : DebugChannel) : String := packageName ++ "." ++ c.name

/-- The value names the channel, whatever its case and the blanks around it. -/
def isNamedBy (c : DebugChannel) (v : Value) : Bool :=
  match v with
  | .text name => Text.lower (Text.trim name) == c.name
  | _ => false

/-- The value names some channel. -/
def isKnown (v : Value) : Bool := all.any fun c => c.isNamedBy v

/-- The list of all channels has each of them. -/
theorem mem_all (c : DebugChannel) : c ∈ all := by
  cases c <;> decide

/-- A channel is found by its name. -/
theorem ofName?_eq_some_iff {name : String} {c : DebugChannel} :
    ofName? name = some c ↔ name = c.name := by
  constructor
  · intro h
    have hname := List.find?_some h
    exact (beq_iff_eq.mp hname).symm
  · rintro rfl
    cases c <;> decide

/-- A value is known if it names a channel. -/
theorem isKnown_iff {v : Value} : isKnown v = true ↔ ∃ c : DebugChannel, c.isNamedBy v = true := by
  unfold isKnown
  rw [List.any_eq_true]
  constructor
  · rintro ⟨c, -, hc⟩
    exact ⟨c, hc⟩
  · rintro ⟨c, hc⟩
    exact ⟨c, c.mem_all, hc⟩

end DebugChannel

namespace Setup

/-! ### Opening channels -/

/-- An element is taken for the channel that it names. -/
theorem channelOf_eq_ok_iff {v : Value} {c : DebugChannel} :
    channelOf v = .ok c ↔ c.isNamedBy v = true := by
  cases v with
  | text name =>
      simp only [channelOf, DebugChannel.isNamedBy, beq_iff_eq]
      rw [← DebugChannel.ofName?_eq_some_iff]
      cases DebugChannel.ofName? (Text.lower (Text.trim name)) <;> simp
  | _ => simp [channelOf, DebugChannel.isNamedBy]

/-- A text that names no channel is refused by its name. -/
theorem channelOf_text {name : String} (h : DebugChannel.isKnown (.text name) = false) :
    channelOf (.text name) = .error (.channelUnknown name) := by
  cases hc : DebugChannel.ofName? (Text.lower (Text.trim name)) with
  | none => simp [channelOf, hc]
  | some c =>
      have hnamed : c.isNamedBy (.text name) = true := by
        rw [DebugChannel.isNamedBy, DebugChannel.ofName?_eq_some_iff.mp hc]
        exact beq_self_eq_true _
      rw [DebugChannel.isKnown_iff.mpr ⟨c, hnamed⟩] at h
      cases h

/-- What a channel is found for is known. -/
theorem isKnown_of_ok {v : Value} {c : DebugChannel} (h : channelOf v = .ok c) :
    DebugChannel.isKnown v = true :=
  DebugChannel.isKnown_iff.mpr ⟨c, channelOf_eq_ok_iff.mp h⟩

/-- What no channel is found for is not known. -/
theorem isKnown_of_error {v : Value} {f : Fault} (h : channelOf v = .error f) :
    DebugChannel.isKnown v = false := by
  rw [Bool.eq_false_iff]
  intro hknown
  obtain ⟨c, hc⟩ := DebugChannel.isKnown_iff.mp hknown
  rw [channelOf_eq_ok_iff.mpr hc] at h
  cases h

/-- Setting the level of a channel leaves those of the others as they are. -/
theorem channel_setChannel (s : Setup) (c c' : DebugChannel) (level : Int) :
    (s.setChannel c level).channel c' = if c = c' then level else s.channel c' := by
  cases c <;> cases c' <;> rfl

/-- The second setup is the first with the named channels opened, and nothing else changed. -/
structure Opened (names : List Value) (s t : Setup) : Prop where
  package : t.package = s.package
  handlers : t.handlers = s.handlers
  format : t.format = s.format
  channel : ∀ c, t.channel c = if names.any c.isNamedBy then debugLevel else s.channel c

/-- Without names nothing is opened. -/
theorem Opened.refl (s : Setup) : Opened [] s s := ⟨rfl, rfl, rfl, fun _ => rfl⟩

/-- One more channel is opened before the others. -/
theorem Opened.cons {v : Value} {c : DebugChannel} {names : List Value} {s t : Setup}
    (hv : channelOf v = .ok c) (h : Opened names (s.setChannel c debugLevel) t) :
    Opened (v :: names) s t where
  package := by rw [h.package]; cases c <;> rfl
  handlers := by rw [h.handlers]; cases c <;> rfl
  format := by rw [h.format]; cases c <;> rfl
  channel c' := by
    have hnamed : c'.isNamedBy v = decide (c = c') := by
      rw [Bool.eq_iff_iff, ← channelOf_eq_ok_iff, hv, decide_eq_true_iff, Except.ok.injEq]
    rw [h.channel, channel_setChannel, List.any_cons, hnamed]
    by_cases hc : c = c' <;> simp [hc]

/-- Channels are opened up to the first name that no channel has. -/
theorem openAll_opened (names : List Value) (s : Setup) :
    Opened (names.takeWhile DebugChannel.isKnown) s (openAll names s).2 := by
  induction names generalizing s with
  | nil => exact .refl s
  | cons v rest ih =>
      unfold openAll
      cases hv : channelOf v with
      | ok c =>
          rw [List.takeWhile_cons_of_pos (isKnown_of_ok hv)]
          exact .cons hv (ih _)
      | error f =>
          rw [List.takeWhile_cons_of_neg (by simp [isKnown_of_error hv])]
          exact .refl s

/-- Opening fails at the first name that no channel has, whatever the setup. -/
theorem openAll_result (names : List Value) (s : Setup) :
    (openAll names s).1 = match names.find? fun v => !DebugChannel.isKnown v with
      | none => .ok ()
      | some v => (channelOf v).map fun _ => () := by
  induction names generalizing s with
  | nil => rfl
  | cons v rest ih =>
      unfold openAll
      cases hv : channelOf v with
      | ok c =>
          rw [List.find?_cons_of_neg (by simp [isKnown_of_ok hv])]
          exact ih _
      | error f =>
          rw [List.find?_cons_of_pos (by simp [isKnown_of_error hv])]
          dsimp only
          rw [hv]
          rfl

/-- Opening that ends well has opened every channel that is named. -/
theorem opened_of_ok {names : List Value} {s t : Setup} (h : openAll names s = (.ok (), t)) :
    Opened names s t := by
  have hknown : ∀ v ∈ names, DebugChannel.isKnown v = true := by
    have hresult := openAll_result names s
    rw [h] at hresult
    cases hfind : names.find? fun v => !DebugChannel.isKnown v with
    | none => simpa using hfind
    | some v =>
        rw [hfind] at hresult
        cases hv : channelOf v with
        | ok c =>
            have hunknown := List.find?_some hfind
            rw [isKnown_of_ok hv] at hunknown
            cases hunknown
        | error f =>
            dsimp only at hresult
            rw [hv] at hresult
            cases hresult
  have hopened := openAll_opened names s
  rw [h, List.takeWhile_eq_self_iff.mpr hknown] at hopened
  exact hopened

/-- **Opening channels by name.**  It fails exactly if some name is no channel's, then by the first
such name, and what has been opened are the channels named before that. -/
theorem enable_names {channels : Value} {names : List String}
    (h : channels.elements = .ok (names.map .text)) (s : Setup) :
    (enable channels s).1 = (match names.find? fun name => !DebugChannel.isKnown (.text name) with
      | none => .ok ()
      | some name => .error (.channelUnknown name)) ∧
    Opened ((names.takeWhile fun name => DebugChannel.isKnown (.text name)).map .text) s
      (enable channels s).2 := by
  have henable : enable channels s = openAll (names.map .text) s := by
    unfold enable
    rw [h]
  have hopened := openAll_opened (names.map .text) s
  simp only [List.takeWhile_map, Function.comp_def] at hopened
  rw [henable]
  refine ⟨?_, hopened⟩
  simp only [openAll_result, List.find?_map, Function.comp_def]
  cases hfind : names.find? fun name => !DebugChannel.isKnown (.text name) with
  | none => rfl
  | some name =>
      have hunknown := List.find?_some hfind
      dsimp only [Option.map_some]
      rw [channelOf_text (by simpa using hunknown)]
      rfl

/-! ### Calls -/

/-- Setting up forgets the setup before it, as far as it gets: what it comes to, and the setup that
it leaves if it ends well. -/
theorem install_eq (wanted : Wanted) (s s' : Setup) :
    (install wanted s).1 = (install wanted s').1 ∧
      ∀ t, install wanted s = (.ok (), t) → install wanted s' = (.ok (), t) := by
  unfold install
  cases levelOfValue wanted.level with
  | error f => exact ⟨rfl, nofun⟩
  | ok level =>
      dsimp only
      cases formatOf (if wanted.format.isAbsent then .text usualFormat else wanted.format) with
      | error f => exact ⟨rfl, nofun⟩
      | ok format => exact ⟨rfl, fun t ht => ht⟩

/-- What a setup is made of that ends well. -/
theorem install_ok {wanted : Wanted} {s t : Setup} (h : install wanted s = (.ok (), t)) :
    ∃ names, levelOfValue wanted.level = .ok t.package ∧ wanted.channels.elements = .ok names ∧
      t.handlers = .console :: (if wanted.file then [.file] else []) ∧
      ∀ c, t.channel c = if names.any c.isNamedBy then debugLevel else 0 := by
  unfold install at h
  cases hlevel : levelOfValue wanted.level with
  | error f =>
      rw [hlevel] at h
      cases h
  | ok level =>
      rw [hlevel] at h
      dsimp only at h
      cases hformat : formatOf
          (if wanted.format.isAbsent then .text usualFormat else wanted.format) with
      | error f =>
          rw [hformat] at h
          cases h
      | ok format =>
          rw [hformat] at h
          unfold enable at h
          cases hnames : wanted.channels.elements with
          | error f =>
              rw [hnames] at h
              cases h
          | ok names =>
              rw [hnames] at h
              have hopened := opened_of_ok h
              refine ⟨names, ?_, rfl, hopened.handlers, fun c => ?_⟩
              · rw [hopened.package]
              · rw [hopened.channel c]
                cases c <;> rfl

end Setup

/-- A call that sets the log up or opens channels. -/
inductive Command where
  | install (wanted : Setup.Wanted)
  | enable (channels : Value)

/-- What a call comes to, and the setup after it. -/
def Command.perform : Command → Setup → Except Fault Unit × Setup
  | install wanted => Setup.install wanted
  | enable channels => Setup.enable channels

namespace Setup

/-- The setup after some calls, whatever they came to. -/
def after (commands : List Command) (s : Setup) : Setup :=
  commands.foldl (fun s c => (c.perform s).2) s

/-! ### Sound setups -/

/-- No handler is there twice, the library has no negative level, and a channel is open or has no
level of its own. -/
structure IsSound (s : Setup) : Prop where
  handlers : s.handlers.Nodup
  package : 0 ≤ s.package
  channel : ∀ c, s.channel c = 0 ∨ s.channel c = debugLevel

/-- A sound setup stays sound when channels are opened. -/
theorem Opened.isSound {names : List Value} {s t : Setup} (h : Opened names s t)
    (hs : s.IsSound) : t.IsSound where
  handlers := h.handlers ▸ hs.handlers
  package := h.package ▸ hs.package
  channel c := by
    rw [h.channel c]
    split
    · exact .inr rfl
    · exact hs.channel c

/-- Opening channels by their names keeps a setup sound, also if a name is unknown. -/
theorem isSound_enable {s : Setup} (hs : s.IsSound) (channels : Value) :
    (enable channels s).2.IsSound := by
  unfold enable
  cases channels.elements with
  | error f => exact hs
  | ok names => exact (openAll_opened names s).isSound hs

/-- No level that a name stands for is negative. -/
theorem levelOfValue_nonneg {v : Value} {level : Int} (h : levelOfValue v = .ok level) :
    0 ≤ level := by
  cases v with
  | text name =>
      change levelOf name = .ok level at h
      unfold levelOf at h
      split at h <;> cases h <;> decide
  | _ => cases h

/-- Installing keeps a setup sound, also if it fails. -/
theorem isSound_install {s : Setup} (hs : s.IsSound) (wanted : Wanted) :
    (install wanted s).2.IsSound := by
  unfold install
  cases hlevel : levelOfValue wanted.level with
  | error f => exact hs
  | ok level =>
      have hpackage := levelOfValue_nonneg hlevel
      dsimp only
      cases formatOf (if wanted.format.isAbsent then .text usualFormat else wanted.format) with
      | error f => exact ⟨List.nodup_nil, hpackage, hs.channel⟩
      | ok format =>
          refine isSound_enable ⟨?_, hpackage, fun c => ?_⟩ _
          · show (Handler.console :: if wanted.file then [.file] else []).Nodup
            cases wanted.file <;> decide
          · cases c <;> exact .inl rfl

/-- A call keeps a setup sound, also if it fails. -/
theorem isSound_perform {s : Setup} (hs : s.IsSound) (c : Command) : (c.perform s).2.IsSound := by
  cases c with
  | install wanted => exact isSound_install hs wanted
  | enable channels => exact isSound_enable hs channels

/-- Calls keep a setup sound, whatever they came to. -/
theorem isSound_after {s : Setup} (hs : s.IsSound) (commands : List Command) :
    (s.after commands).IsSound := by
  induction commands generalizing s with
  | nil => exact hs
  | cons c rest ih => exact ih (isSound_perform hs c)

/-- A setup as it starts is sound. -/
theorem isSound_fresh : ({} : Setup).IsSound where
  handlers := List.nodup_nil
  package := by decide
  channel c := by cases c <;> exact .inl rfl

/-- A setup that a call leaves behind that ends well is sound, whatever was before. -/
theorem isSound_of_install {wanted : Wanted} {s t : Setup} (h : install wanted s = (.ok (), t)) :
    t.IsSound := by
  have hfresh := isSound_install isSound_fresh wanted
  rw [(install_eq wanted s {}).2 t h] at hfresh
  exact hfresh

/-! ### What is written -/

/-- The logger is under a channel that is open. -/
def OpensTo (s : Setup) (logger : String) : Prop :=
  ∃ c : DebugChannel, s.channel c = debugLevel ∧ isUnder c.loggerName logger = true

/-- The level of an entry is enough: that of debugging under an open channel, and that of the
library elsewhere. -/
def Passes (s : Setup) (e : Entry) : Prop :=
  (s.OpensTo e.logger ∧ debugLevel ≤ e.level) ∨
    (¬s.OpensTo e.logger ∧ s.effective packageName ≤ e.level)

/-- A logger under another one begins with its name. -/
theorem prefix_of_isUnder {name logger : String} (h : isUnder name logger = true) :
    name.toList <+: logger.toList := by
  unfold isUnder at h
  rcases Bool.or_eq_true_iff.mp h with heq | hprefix
  · have hsame := beq_iff_eq.mp heq
    subst hsame
    exact List.prefix_rfl
  · have hlong := List.isPrefixOf_iff_prefix.mp hprefix
    rw [String.toList_append] at hlong
    exact (List.prefix_append _ _).trans hlong

/-- A logger is under at most one channel. -/
theorem isUnder_unique {c c' : DebugChannel} {logger : String}
    (h : isUnder c.loggerName logger = true) (h' : isUnder c'.loggerName logger = true) :
    c = c' := by
  have hdistinct : ∀ a b : DebugChannel, a.loggerName.toList <+: b.loggerName.toList → a = b := by
    intro a b
    cases a <;> cases b <;> decide
  rcases List.prefix_or_prefix_of_prefix (prefix_of_isUnder h) (prefix_of_isUnder h') with hp | hp
  · exact hdistinct _ _ hp
  · exact (hdistinct _ _ hp).symm

/-- The library's own logger has the level of the library, else that of everything. -/
theorem effective_packageName (s : Setup) :
    s.effective packageName = if s.package ≠ 0 then s.package else rootLevel := by
  have hnone :
      (DebugChannel.all.find? fun c => isUnder (packageName ++ "." ++ c.name) packageName) = none :=
    by decide
  have hunder : isUnder packageName packageName = true := by decide
  unfold effective
  rw [hnone, hunder]
  rfl

/-- The level of a logger under a channel is that of the channel, if it has one. -/
theorem effective_of_channel {s : Setup} {logger : String} {c : DebugChannel}
    (hlogger : isUnder packageName logger = true) (hc : isUnder c.loggerName logger = true) :
    s.effective logger =
      if s.channel c ≠ 0 then s.channel c else s.effective packageName := by
  have hfound : (DebugChannel.all.find? fun c => isUnder (packageName ++ "." ++ c.name) logger) =
      some c := by
    cases hfind : DebugChannel.all.find? fun c => isUnder (packageName ++ "." ++ c.name) logger with
    | none => exact absurd hc (List.find?_eq_none.mp hfind c c.mem_all)
    | some c' =>
        have hc' : isUnder c'.loggerName logger = true := List.find?_some (a := c') hfind
        rw [isUnder_unique hc hc']
  rw [effective_packageName]
  unfold effective
  rw [hfound, hlogger]
  rfl

/-- Outside of the channels the level of the package is in force. -/
theorem effective_of_not_channel {s : Setup} {logger : String}
    (hlogger : isUnder packageName logger = true)
    (hnone : ∀ c : DebugChannel, isUnder c.loggerName logger = false) :
    s.effective logger = s.effective packageName := by
  have hfound : (DebugChannel.all.find? fun c => isUnder (packageName ++ "." ++ c.name) logger) =
      none := List.find?_eq_none.mpr fun c _ => Bool.eq_false_iff.mp (hnone c)
  rw [effective_packageName]
  unfold effective
  rw [hfound, hlogger]
  rfl

/-- The level from which on a logger lets entries through. -/
theorem effective_of_isSound {s : Setup} {logger : String} (hs : s.IsSound)
    (hlogger : isUnder packageName logger = true) :
    (s.OpensTo logger → s.effective logger = debugLevel) ∧
      (¬s.OpensTo logger → s.effective logger = s.effective packageName) := by
  constructor
  · rintro ⟨c, hopen, hc⟩
    rw [effective_of_channel hlogger hc, hopen]
    rfl
  · intro hclosed
    by_cases hexists : ∃ c : DebugChannel, isUnder c.loggerName logger = true
    · obtain ⟨c, hc⟩ := hexists
      have hzero : s.channel c = 0 := (hs.channel c).resolve_right fun h => hclosed ⟨c, h, hc⟩
      rw [effective_of_channel hlogger hc, hzero]
      rfl
    · refine effective_of_not_channel hlogger fun c => ?_
      rw [Bool.eq_false_iff]
      exact fun hc => hexists ⟨c, hc⟩

/-- A sound setup lets the entries of the library through whose level is enough. -/
theorem admits_iff {s : Setup} (hs : s.IsSound) {e : Entry}
    (hlogger : isUnder packageName e.logger = true) : s.admits e = true ↔ s.Passes e := by
  have hpositive : 0 < s.effective packageName := by
    rw [effective_packageName]
    have hpackage := hs.package
    split
    · omega
    · decide
  have hdebug : 0 < debugLevel := by decide
  obtain ⟨hopen, hclosed⟩ := effective_of_isSound hs hlogger
  unfold admits lets Passes
  rw [hlogger, Bool.true_and, Bool.and_eq_true, decide_eq_true_iff, decide_eq_true_iff]
  by_cases h : s.OpensTo e.logger
  · simp only [hopen h, h, true_and, not_true_eq_false, false_and, or_false]
    omega
  · simp only [hclosed h, h, false_and, not_false_eq_true, true_and, false_or]
    omega

/-- A sound setup writes an entry to each handler once if its level is enough, and not at all
otherwise. -/
theorem lines_of_isSound {s : Setup} (hs : s.IsSound) {e : Entry} {line : String}
    (hlogger : isUnder packageName e.logger = true)
    (hline : LineFormat.write? s.format e = some line) {handler : Handler}
    (hhandler : handler ∈ s.handlers) :
    (s.Passes e → s.lines handler e = [line]) ∧ (¬s.Passes e → s.lines handler e = []) := by
  have hone : s.handlers.filter (· = handler) = [handler] := by
    rw [List.filter_eq, List.count_eq_one_of_mem hs.handlers hhandler]
    rfl
  unfold lines
  rw [← admits_iff hs hlogger]
  constructor
  · intro h
    rw [if_pos h, hone]
    simp [hline]
  · intro h
    rw [if_neg h]

/-- An entry is never written twice to a handler, whatever was called before. -/
theorem length_lines_le (commands : List Command) (handler : Handler) (e : Entry) :
    ((({} : Setup).after commands).lines handler e).length ≤ 1 := by
  have hsound : (({} : Setup).after commands).IsSound := isSound_after isSound_fresh commands
  have hcount := List.nodup_iff_count_le_one.mp hsound.handlers handler
  unfold lines
  split
  · refine (List.length_filterMap_le _ _).trans ?_
    rw [List.filter_eq, List.length_replicate]
    exact hcount
  · exact Nat.zero_le 1

/-- **Setting up forgets.**  Whatever was called before, with whatever success: a call that sets the
log up and ends well leaves a setup that hangs on its arguments alone. The level is the one asked
for, there is one handler for the console, and one for a file if it is wanted, and exactly the
channels that are named are open. From then on an entry of the library that can be written is
written once to each handler if its level is enough, and not at all otherwise.  Opening channels
fails exactly if some name is no channel's, and opens those that are named before it. -/
theorem install_forgets (start : Setup) (earlier : List Command) :
    (∀ wanted s, install wanted (start.after earlier) = (.ok (), s) →
      (∀ (start' : Setup) (earlier' : List Command),
        install wanted (start'.after earlier') = (.ok (), s)) ∧
      (∃ names, levelOfValue wanted.level = .ok s.package ∧
        wanted.channels.elements = .ok names ∧
        s.handlers = .console :: (if wanted.file then [.file] else []) ∧
        ∀ c, s.channel c = if names.any c.isNamedBy then debugLevel else 0) ∧
      ∀ (later : List Command) (e : Entry) (line : String),
        let t := s.after later
        isUnder packageName e.logger = true → LineFormat.write? t.format e = some line →
          ∀ handler ∈ t.handlers,
            (t.Passes e → t.lines handler e = [line]) ∧ (¬t.Passes e → t.lines handler e = [])) ∧
    ∀ (channels : Value) (names : List String), channels.elements = .ok (names.map .text) →
      let before := start.after earlier
      let called := enable channels before
      ((∃ f, called.1 = .error f) ↔ ∃ name ∈ names, DebugChannel.isKnown (.text name) = false) ∧
      (∀ f, called.1 = .error f → f.kind = .value ∧ ∃ name,
        (names.find? fun name => !DebugChannel.isKnown (.text name)) = some name ∧
          f = .channelUnknown name) ∧
      Opened ((names.takeWhile fun name => DebugChannel.isKnown (.text name)).map .text) before
        called.2 := by
  constructor
  · intro wanted s h
    refine ⟨fun start' earlier' => (install_eq wanted _ _).2 s h, install_ok h, ?_⟩
    intro later e line t hlogger hline handler hhandler
    exact lines_of_isSound (isSound_after (isSound_of_install h) later) hlogger hline hhandler
  · intro channels names h before called
    obtain ⟨hresult, hopened⟩ := enable_names h before
    have hcalled : called.1 = _ := hresult
    refine ⟨?_, ?_, hopened⟩
    · rw [hcalled]
      cases hfind : names.find? fun name => !DebugChannel.isKnown (.text name) with
      | none =>
          have hknown := List.find?_eq_none.mp hfind
          simpa using hknown
      | some name =>
          have hunknown := List.find?_some hfind
          have hmem := List.mem_of_find?_eq_some hfind
          exact iff_of_true ⟨_, rfl⟩ ⟨name, hmem, by simpa using hunknown⟩
    · intro f hf
      rw [hcalled] at hf
      cases hfind : names.find? fun name => !DebugChannel.isKnown (.text name) with
      | none =>
          rw [hfind] at hf
          cases hf
      | some name =>
          rw [hfind] at hf
          cases hf
          exact ⟨rfl, name, rfl, rfl⟩

/-- A log that is set up again, after channels were opened up to an unknown one, writes a debugging
entry of the one channel that is then named to the file once. -/
theorem install_forgets_reopening :
    let wanted : Wanted := { file := true, channels := .list [.text " Middleware "] }
    let earlier := [.install {}, .enable (.list [.text "core", .text "metrics", .text "database"])]
    let e : Entry :=
      { logger := "logmongo.middleware.request_logger", level := 10, text := "skip request" }
    ∃ s, install wanted (({} : Setup).after earlier) = (.ok (), s) ∧ s.channel .core = 0 ∧
      ∃ line, LineFormat.write? s.format e = some line ∧ s.lines .file e = [line] := by
  intro wanted earlier e
  obtain ⟨s, hs⟩ : ∃ s, install wanted (({} : Setup).after earlier) = (.ok (), s) := ⟨_, rfl⟩
  obtain ⟨hforgets, -⟩ := install_forgets {} earlier
  obtain ⟨hsame, ⟨names, -, hnames, hhandlers, hchannels⟩, hlines⟩ := hforgets wanted s hs
  obtain rfl : [.text " Middleware "] = names := Except.ok.inj hnames
  have hformat : s.format = usualFormat := by
    have hfresh := hsame {} []
    cases hfresh
    rfl
  have hcore : s.channel .core = 0 := by
    rw [hchannels]
    decide
  have hpasses : s.Passes e := by
    refine .inl ⟨⟨.middleware, ?_, by decide⟩, by decide⟩
    rw [hchannels]
    decide
  obtain ⟨line, hline⟩ : ∃ line, LineFormat.write? usualFormat e = some line :=
    Option.isSome_iff_exists.mp (by decide +kernel)
  rw [← hformat] at hline
  have hfile : Handler.file ∈ s.handlers := by
    rw [hhandlers]
    decide
  exact ⟨s, hs, hcore, line, hline, (hlines [] e line (by decide) hline .file hfile).1 hpasses⟩

end Setup

end RequestLog.Log
