import Mathlib.Data.List.Basic
import RequestLog.Proofs.Format.Cache

/-!
# Each template is compiled once

Who asks a catalog twice for one template is handed out one object, whatever names stand for it and
whatever is defined in between. What the commands of a run select is a matter of the definitions
that each of them finds (`selections`). The templates among it are numbered where they first appear,
and these numbers are what the catalog goes by: it has kept just these templates (`HasKept`), and a
command adds its own if it is new (`Represents.hands`). By induction this holds at each place of a
run (`hands_at`). The main statement is `shares_compilations`.
-/

namespace RequestLog

open Format

variable {β : Type}

/-- The template that an entry is. -/
def Format.Entry.template? : Entry β → Option String
  | .builder _ => none
  | .template source => some source

/-- What was handed out twice is one object: a builder is only itself, and a compiled template is
told from others by its number. -/
inductive Selected.Same : Selected β → Selected β → Prop
  | builder (b : β) : Same (.builder b) (.builder b)
  | compiled {k k' : Compiled} (h : k.serial = k'.serial) : Same (.compiled k) (.compiled k')

namespace Catalog

/-! ### Runs -/

/-- The builder or the template that a command selects, if it asks for one and there is one. -/
def Command.selects (d : Definitions β) : Command β → Option (Entry β)
  | .lookup spec => (d.lookup spec).toOption
  | .compile (.text source) => (Entry.template source : Entry β).served.toOption
  | _ => none

/-- What the commands of a run select one by one, each among the definitions that those before it
have made. -/
def selections (d : Definitions β) : List (Command β) → List (Option (Entry β))
  | [] => []
  | command :: rest => command.selects d :: selections (command.revise d) rest

/-- What the commands of a run come to one by one, each with the catalog that those before it have
left. -/
def outcomes (c : Catalog β) : List (Command β) → List (Outcome LogLine (Catalog β) (Reply β))
  | [] => []
  | command :: rest => perform command c :: outcomes (perform command c).state rest

/-- The object that was handed out, if a lookup or a compilation came to one. -/
def handed? (o : Outcome LogLine (Catalog β) (Reply β)) : Option (Selected β) :=
  match o.result with
  | .ok (.compiled k) => some (.compiled k)
  | .ok (.selected s) => some s
  | _ => none

/-- The compiled template that has a number. -/
def numbered? (c : Catalog β) (serial : Nat) : Option Compiled :=
  (c.compiled.entries.map (·.2)).find? fun k => k.serial = serial

/-- The templates among what was selected, each where it first appears. -/
def templates (selected : List (Option (Entry β))) : List String :=
  (selected.filterMap fun e? => e?.bind Entry.template?).eraseDups

/-- The templates are those that were selected. -/
theorem mem_templates {selected : List (Option (Entry β))} {source : String} :
    source ∈ templates selected ↔ some (.template source) ∈ selected := by
  have htemplate : ∀ e? : Option (Entry β),
      e?.bind Entry.template? = some source ↔ some (.template source) = e? := by
    intro e?
    rcases e? with _ | ⟨b⟩ | ⟨source'⟩ <;> simp [Entry.template?, eq_comm]
  rw [templates, List.mem_eraseDups, List.mem_filterMap]
  simp only [htemplate, exists_eq_right']

/-- What appears later leaves the order of the earlier templates. -/
theorem templates_mono {earlier later : List (Option (Entry β))} (h : earlier <+: later) :
    templates earlier <+: templates later := by
  obtain ⟨since, rfl⟩ := h
  rw [templates, templates, List.filterMap_append, List.eraseDups_append]
  exact List.prefix_append _ _

/-! ### What one command adds -/

/-- The line that reports the compilation of a template. -/
def compilation (source : String) : LogLine := compiledLine ⟨source, Template.references source⟩

/-- A compiled template where templates have the numbers of their places. -/
def compiledIn (sources : List String) (source : String) : Compiled :=
  ⟨sources.idxOf source, source, Template.references source⟩

/-- The object for an entry where templates have the numbers of their places. -/
def objectIn (sources : List String) : Entry β → Selected β
  | .builder b => .builder b
  | .template source => .compiled (compiledIn sources source)

/-- The template that was selected, if it is a new one. -/
def fresh (sources : List String) (e? : Option (Entry β)) : List String :=
  (e?.bind Entry.template?).toList.filter (· ∉ sources)

/-- The templates that are kept after one selection more. -/
def keep (sources : List String) (e? : Option (Entry β)) : List String :=
  sources ++ fresh sources e?

/-- The catalog has kept some templates, numbered as they stand. -/
def HasKept (sources : List String) (c : Catalog β) : Prop :=
  c.compiled.entries = sources.map fun source => (source, compiledIn sources source)

section Places

variable {sources sources' : List String}

/-- A template that is kept has its number for good. -/
theorem compiledIn_eq_of_mem (h : sources <+: sources') {source : String}
    (hsource : source ∈ sources) : compiledIn sources' source = compiledIn sources source := by
  rw [compiledIn, compiledIn, h.idxOf_eq_of_mem hsource]

/-- Objects are the same if they are for one template or one builder. -/
theorem objectIn_same_iff {e e' : Entry β}
    (he : ∀ source, e = .template source → source ∈ sources) :
    (objectIn sources e).Same (objectIn sources e') ↔ e = e' := by
  constructor
  · intro h
    cases e with
    | builder b =>
        cases e' with
        | builder b' =>
            cases h
            rfl
        | template source' => cases h
    | template source =>
        cases e' with
        | builder b' => cases h
        | template source' =>
            cases h with
            | compiled hserial =>
                obtain rfl : source = source' := (List.idxOf_inj (he source rfl)).mp hserial
                rfl
  · rintro rfl
    cases e with
    | builder b => exact .builder b
    | template source => exact .compiled rfl

/-- A template that is kept already is not kept again. -/
theorem keep_template_of_mem {source : String} (h : source ∈ sources) :
    keep sources (some (.template source : Entry β)) = sources := by
  simp [keep, fresh, Entry.template?, h]

/-- A new template is kept behind the others. -/
theorem keep_template_of_not_mem {source : String} (h : source ∉ sources) :
    keep sources (some (.template source : Entry β)) = sources ++ [source] := by
  simp [keep, fresh, Entry.template?, h]

/-- Keeping what is new of each selection keeps the templates where they first appear. -/
theorem foldl_keep (selected : List (Option (Entry β))) :
    selected.foldl keep [] = templates selected := by
  induction selected using List.reverseRecOn with
  | nil => rfl
  | append_singleton selected e? ih =>
      rw [List.foldl_append, List.foldl_cons, List.foldl_nil, ih, keep, fresh, templates, templates,
        Act.filterMap_concat]
      cases e?.bind Entry.template? with
      | none => simp
      | some source =>
          rw [Option.toList_some, eraseDups_concat]
          by_cases hsource : source ∈ selected.filterMap fun e? => e?.bind Entry.template?
          · simp [-List.mem_filterMap, hsource]
          · simp [-List.mem_filterMap, hsource]

variable {c : Catalog β}

/-- No template is kept twice. -/
theorem HasKept.nodup (h : HasKept sources c) : sources.Nodup := by
  have hnodup := c.compiled.nodup
  rw [h, List.map_map] at hnodup
  simpa [Function.comp_def] using hnodup

/-- What is compiled are the templates that are kept. -/
theorem HasKept.keys (h : HasKept sources c) : c.compiled.keys = sources := by
  rw [Table.keys, h, List.map_map]
  simp [Function.comp_def]

/-- A template that is kept is found as it was compiled. -/
theorem HasKept.get?_of_mem (h : HasKept sources c) {source : String} (hsource : source ∈ sources) :
    c.compiled.get? source = some (compiledIn sources source) := by
  apply lookup_of_mem c.compiled.nodup
  rw [h]
  exact List.mem_map_of_mem hsource

/-- A template that is not kept is not found. -/
theorem HasKept.get?_of_not_mem (h : HasKept sources c) {source : String}
    (hsource : source ∉ sources) : c.compiled.get? source = none := by
  rw [Table.get?_eq_none_iff, h.keys]
  exact hsource

/-- What has been compiled is found under its number. -/
theorem HasKept.numbered? (h : HasKept sources c) {source : String} (hsource : source ∈ sources) :
    c.numbered? (compiledIn sources source).serial = some (compiledIn sources source) := by
  have hkept : c.compiled.entries.map (·.2) = sources.map (compiledIn sources) := by
    rw [h, List.map_map]
    rfl
  rw [Catalog.numbered?, hkept]
  cases hfound : (sources.map (compiledIn sources)).find? fun k =>
      k.serial = (compiledIn sources source).serial with
  | none =>
      have hnone := List.find?_eq_none.mp hfound _ (List.mem_map_of_mem hsource)
      simp at hnone
  | some k =>
      obtain ⟨source', hsource', rfl⟩ := List.mem_map.mp (List.mem_of_find?_eq_some hfound)
      have hserial := List.find?_some hfound
      obtain rfl : source' = source := (List.idxOf_inj hsource').mp (of_decide_eq_true hserial)
      rfl

/-- A new template takes the next number. -/
theorem HasKept.insert (h : HasKept sources c) {source : String} (hsource : source ∉ sources) :
    HasKept (sources ++ [source]) { c with
      compiled := c.compiled.insert source (compiledIn (sources ++ [source]) source) } := by
  have hnew : source ∉ c.compiled.entries.map (·.1) := by
    rw [← Table.keys, h.keys]
    exact hsource
  have hearlier : ∀ s ∈ sources,
      (s, compiledIn (sources ++ [source]) s) = (s, compiledIn sources s) := by
    intro s hs
    rw [compiledIn_eq_of_mem (List.prefix_append _ _) hs]
  change Table.insertIn source _ c.compiled.entries = _
  rw [Table.insertIn_of_not_mem hnew, h, List.map_append, List.map_congr_left hearlier,
    List.map_singleton]

/-- The next number is the one that a new template takes. -/
theorem HasKept.compiledIn_concat (h : HasKept sources c) {source : String}
    (hsource : source ∉ sources) : compiledIn (sources ++ [source]) source =
      ⟨c.compiled.entries.length, source, Template.references source⟩ := by
  have hlength : c.compiled.entries.length = sources.length := by rw [h, List.length_map]
  rw [compiledIn, List.idxOf_append_of_notMem hsource, hlength, List.idxOf_cons_self, Nat.add_zero]

end Places

/-- What a command does that selects an entry or nothing: it hands out the object for the entry, and
a template that is new is compiled and kept. -/
structure Hands (sources : List String) (e? : Option (Entry β)) (given? : Option (Selected β))
    (lines : List LogLine) (c : Catalog β) : Prop where
  given : given? = e?.map (objectIn (keep sources e?))
  lines : lines = (fresh sources e?).map compilation
  kept : HasKept (keep sources e?) c

variable {sources : List String} {c : Catalog β} {d : Definitions β}

/-- Where nothing is selected, nothing is handed out. -/
theorem HasKept.hands_none (h : HasKept sources c) : Hands sources none none [] c where
  given := rfl
  lines := rfl
  kept := by rwa [keep, fresh, Option.bind_none, Option.toList_none, List.filter_nil,
    List.append_nil]

/-- A template that has characters is handed out compiled: as it was kept, or anew. -/
theorem HasKept.hands_compileText (h : HasKept sources c) {source : String}
    (hsource : source ≠ "") :
    Hands sources (some (.template source))
      ((compileText source c).result.toOption.map (.compiled : Compiled → Selected β))
      (compileText source c).events (compileText source c).state := by
  unfold compileText
  rw [Act.bind_of_ok (Act.get_apply c), Outcome.after_nil]
  by_cases hmem : source ∈ sources
  · rw [h.get?_of_mem hmem]
    refine ⟨?_, ?_, ?_⟩
    · rw [keep_template_of_mem hmem]
      rfl
    · simp [fresh, Entry.template?, hmem]
    · rwa [keep_template_of_mem hmem]
  · have hcompile : Template.compile source = .ok ⟨source, Template.references source⟩ :=
      Template.compile_eq_ok_iff.mpr ⟨hsource, rfl⟩
    have hkept := h.insert hmem
    rw [h.compiledIn_concat hmem] at hkept
    rw [h.get?_of_not_mem hmem, hcompile]
    refine ⟨?_, ?_, ?_⟩
    · rw [keep_template_of_not_mem hmem, Option.map_some, objectIn, h.compiledIn_concat hmem]
      rfl
    · simp only [fresh, Entry.template?, Option.bind_some, Option.toList_some, hmem,
        not_false_eq_true, decide_true, List.filter_cons_of_pos, List.filter_nil]
      rfl
    · rw [keep_template_of_not_mem hmem]
      exact hkept

/-- A template without characters is not handed out, and nothing changes. -/
theorem compileText_empty (hsound : c.IsSound) :
    compileText "" c = ⟨[], .error .templateEmpty, c⟩ := by
  have hcomes := comes_compileText hsound ""
  have hcompile : Template.compile "" = .error .templateEmpty := rfl
  rw [hcompile] at hcomes
  generalize compileText "" c = o at hcomes ⊢
  cases hcomes
  rfl

/-- An entry that was chosen is handed out, unless it is a template without characters. -/
theorem HasKept.hands_serve (h : HasKept sources c) (hsound : c.IsSound) (e : Entry β) :
    Hands sources e.served.toOption (serve e c).result.toOption (serve e c).events
      (serve e c).state := by
  cases e with
  | builder b =>
      refine ⟨rfl, rfl, ?_⟩
      simpa [keep, fresh, Entry.served, Except.toOption, Entry.template?, serve] using h
  | template source =>
      have hresult : ∀ r : Except Fault Compiled,
          (r.map (.compiled : Compiled → Selected β)).toOption = r.toOption.map .compiled := by
        intro r
        cases r <;> rfl
      rw [serve, Act.bind_pure_apply, hresult]
      by_cases hsource : source = ""
      · subst hsource
        rw [compile, compileText_empty hsound]
        exact h.hands_none
      · have hserved : (Entry.template source : Entry β).served = .ok (.template source) := by
          simp [Entry.served, hsource]
        rw [hserved]
        exact h.hands_compileText hsource

/-- What is not a text is not compiled. -/
theorem compile_foreign {v : Value} (h : ∀ source, v ≠ .text source) (c : Catalog β) :
    Command.selects d (.compile v) = none ∧ ∃ f, compile v c = ⟨[], .error f, c⟩ := by
  constructor
  · cases v with
    | text source => exact absurd rfl (h source)
    | _ => rfl
  · unfold compile
    split
    · exact absurd rfl (h _)
    · cases v.unhashable? with
      | some typeName => exact ⟨_, rfl⟩
      | none => exact ⟨_, rfl⟩

/-- **One command.**  Whatever is commanded, the object for what was selected is handed out, and the
catalog has kept the template of it. -/
theorem Represents.hands (h : Represents d c) (hkept : HasKept sources c) (command : Command β) :
    Hands sources (command.selects d) (handed? (Catalog.perform command c))
      (Catalog.perform command c).events (Catalog.perform command c).state := by
  cases command with
  | define name spec =>
      rw [Catalog.perform, Act.bind_apply, define_apply]
      cases spec.entry? with
      | some e => exact hkept.hands_none (c := { c with formats := c.formats.insert name e.spec })
      | none => exact hkept.hands_none
  | compile v =>
      rw [Catalog.perform, Act.bind_pure_apply]
      have hhanded : ∀ (lines : List LogLine) (r : Except Fault Compiled) (c' : Catalog β),
          handed? ⟨lines, r.map .compiled, c'⟩ = (r.map .compiled).toOption := by
        intro lines r c'
        cases r <;> rfl
      rw [hhanded]
      by_cases htext : ∃ source, v = .text source
      · obtain ⟨source, rfl⟩ := htext
        have hserve := hkept.hands_serve h.sound (.template source)
        rw [serve, Act.bind_pure_apply] at hserve
        exact hserve
      · obtain ⟨hforeign, f, hfails⟩ :=
          compile_foreign (d := d) (fun source hv => htext ⟨source, hv⟩) c
        rw [hforeign, hfails]
        exact hkept.hands_none
  | lookup spec =>
      rw [Catalog.perform, Act.bind_pure_apply, h.lookup_apply]
      have hhanded : ∀ (lines : List LogLine) (r : Except Fault (Selected β)) (c' : Catalog β),
          handed? ⟨lines, r.map .selected, c'⟩ = r.toOption := by
        intro lines r c'
        cases r <;> rfl
      rw [hhanded, Command.selects, Definitions.lookup]
      cases d.choose spec with
      | error f => exact hkept.hands_none
      | ok e => exact hkept.hands_serve h.sound e
  | get name => exact hkept.hands_none
  | names => exact hkept.hands_none

/-! ### Runs of commands -/

/-- Every command of a run hands out the object for what it selects, numbered among the templates
that were selected up to it. -/
theorem hands_at (h : Represents d c) (hkept : HasKept sources c) (run : List (Command β)) (i : Nat)
    {o : Outcome LogLine (Catalog β) (Reply β)} (ho : (outcomes c run)[i]? = some o) :
    ∃ e?, (selections d run)[i]? = some e? ∧
      Hands (((selections d run).take i).foldl keep sources) e? (handed? o) o.events o.state := by
  induction run generalizing c d sources i with
  | nil => cases ho
  | cons command rest ih =>
      have hhands := h.hands hkept command
      cases i with
      | zero =>
          obtain rfl := Option.some.inj ho
          exact ⟨command.selects d, rfl, hhands⟩
      | succ i => exact ih (h.perform command).1 hhands.kept i ho

/-- What is logged of a run is the compilation of each template that it adds. -/
theorem log_outcomes (h : Represents d c) (hkept : HasKept sources c) (run : List (Command β)) :
    sources.map compilation ++ (outcomes c run).flatMap (·.events) =
      ((selections d run).foldl keep sources).map compilation := by
  induction run generalizing c d sources with
  | nil => exact List.append_nil _
  | cons command rest ih =>
      have hhands := h.hands hkept command
      rw [outcomes, List.flatMap_cons, hhands.lines, selections, List.foldl_cons,
        ← ih (h.perform command).1 hhands.kept, keep, List.map_append, List.append_assoc]

/-- One selection more keeps its template. -/
theorem keep_templates {selected : List (Option (Entry β))} {i : Nat} {e? : Option (Entry β)}
    (h : selected[i]? = some e?) :
    keep (templates (selected.take i)) e? = templates (selected.take (i + 1)) := by
  rw [← foldl_keep, ← foldl_keep, List.take_add_one, h, Option.toList_some, List.foldl_append,
    List.foldl_cons, List.foldl_nil]

/-- A template that was selected in a run keeps from then on the number that it has in the whole. -/
theorem compiledIn_templates {selected : List (Option (Entry β))} {i j : Nat} {source : String}
    (hij : i ≤ j) (h : selected[i]? = some (some (.template source))) :
    source ∈ templates (selected.take (j + 1)) ∧
      compiledIn (templates (selected.take (j + 1))) source =
        compiledIn (templates selected) source := by
  have hmem : some (.template source) ∈ selected.take (j + 1) := by
    apply List.mem_of_getElem? (i := i)
    rw [List.getElem?_take_of_lt (by omega), h]
  have hkept := mem_templates.mpr hmem
  exact ⟨hkept, (compiledIn_eq_of_mem (templates_mono (List.take_prefix _ _)) hkept).symm⟩

/-- A template that is new is compiled. -/
theorem fresh_templates {earlier : List (Option (Entry β))} {source : String}
    (h : some (.template source) ∉ earlier) :
    fresh (templates earlier) (some (.template source : Entry β)) = [source] := by
  simp [fresh, Entry.template?, mem_templates, h]

/-- A template that was selected before is not new. -/
theorem fresh_templates_of_mem {earlier : List (Option (Entry β))} {source : String}
    (h : some (.template source) ∈ earlier) :
    fresh (templates earlier) (some (.template source : Entry β)) = [] := by
  simp [fresh, Entry.template?, mem_templates, h]

/-- Compilations are shared. A command hands out an object if and only if it selects something, and
objects are the same if and only if the same was selected, a template or a builder. A compiled
template keeps its source and its fields after all that follows. The first that selects a template
compiles and logs it, and nothing else is logged. -/
structure Shares (selected : List (Option (Entry β)))
    (outcomes : List (Outcome LogLine (Catalog β) (Reply β))) : Prop where
  serves : ∀ {i : Nat} {o}, outcomes[i]? = some o →
    ∃ e?, selected[i]? = some e? ∧ Option.Rel Selected.Serves e? (handed? o)
  same_iff : ∀ {i j : Nat} {o o' x x'}, outcomes[i]? = some o → outcomes[j]? = some o' →
    handed? o = some x → handed? o' = some x' → (x.Same x' ↔ selected[i]? = selected[j]?)
  kept : ∀ {i j : Nat} {o o' k}, i ≤ j → outcomes[i]? = some o → outcomes[j]? = some o' →
    handed? o = some (.compiled k) → o'.state.numbered? k.serial = some k
  first : ∀ {i : Nat} {o source}, outcomes[i]? = some o →
    selected[i]? = some (some (.template source)) →
    some (.template source) ∉ selected.take i → o.events = [compilation source]
  again : ∀ {i : Nat} {o source}, outcomes[i]? = some o →
    selected[i]? = some (some (.template source)) →
    some (.template source) ∈ selected.take i → o.events = []
  quiet : ∀ {i : Nat} {o}, outcomes[i]? = some o →
    (∀ source, selected[i]? ≠ some (some (.template source))) → o.events = []
  compiled : ∀ {i : Nat} {o}, outcomes[i]? = some o →
    o.state.compiled.keys = templates (selected.take (i + 1))
  log : outcomes.flatMap (·.events) = (templates selected).map compilation

/-- A run shares its compilations if each command hands out the object for what it selects. -/
theorem shares_of_hands {selected : List (Option (Entry β))}
    {outcomes : List (Outcome LogLine (Catalog β) (Reply β))}
    (hhands : ∀ {i : Nat} {o}, outcomes[i]? = some o → ∃ e?, selected[i]? = some e? ∧
      Hands (templates (selected.take i)) e? (handed? o) o.events o.state)
    (hlog : outcomes.flatMap (·.events) = (templates selected).map compilation) :
    Shares selected outcomes := by
  -- what is handed out, by the numbers of the whole run
  have hgiven : ∀ {i : Nat} {o x}, outcomes[i]? = some o → handed? o = some x →
      ∃ e, selected[i]? = some (some e) ∧ x = objectIn (templates selected) e := by
    intro i o x ho hx
    obtain ⟨e?, he?, hhand⟩ := hhands ho
    rw [hhand.given, keep_templates he?] at hx
    obtain ⟨e, rfl, rfl⟩ := Option.map_eq_some_iff.mp hx
    refine ⟨e, he?, ?_⟩
    cases e with
    | builder b => rfl
    | template source => rw [objectIn, objectIn, (compiledIn_templates (Nat.le_refl i) he?).2]
  have hlines : ∀ {i : Nat} {o e?}, outcomes[i]? = some o → selected[i]? = some e? →
      o.events = (fresh (templates (selected.take i)) e?).map compilation := by
    intro i o e? ho he?
    obtain ⟨e?', he?', hhand⟩ := hhands ho
    obtain rfl := Option.some.inj (he?.symm.trans he?')
    exact hhand.lines
  refine ⟨?_, ?_, ?_, ?_, ?_, ?_, ?_, hlog⟩
  · intro i o ho
    obtain ⟨e?, he?, hhand⟩ := hhands ho
    refine ⟨e?, he?, ?_⟩
    rw [hhand.given]
    rcases e? with _ | ⟨b⟩ | ⟨source⟩
    · exact .none
    · exact .some (.builder b)
    · exact .some (.template rfl rfl)
  · intro i j o o' x x' ho ho' hx hx'
    obtain ⟨e, he, rfl⟩ := hgiven ho hx
    obtain ⟨e', he', rfl⟩ := hgiven ho' hx'
    have hnumbered : ∀ source, e = .template source → source ∈ templates selected := by
      rintro source rfl
      exact mem_templates.mpr (List.mem_of_getElem? he)
    rw [objectIn_same_iff hnumbered, he, he', Option.some_inj, Option.some_inj]
  · intro i j o o' k hij ho ho' hk
    obtain ⟨e, he, hobject⟩ := hgiven ho hk
    obtain ⟨e?, he?, hhand⟩ := hhands ho'
    have hkept := hhand.kept
    rw [keep_templates he?] at hkept
    cases e with
    | builder b => cases hobject
    | template source =>
        obtain rfl := Selected.compiled.inj hobject
        obtain ⟨hmem, hnumber⟩ := compiledIn_templates hij he
        rw [← hnumber]
        exact hkept.numbered? hmem
  · intro i o source ho he hnew
    rw [hlines ho he, fresh_templates hnew, List.map_singleton]
  · intro i o source ho he hmem
    rw [hlines ho he, fresh_templates_of_mem hmem, List.map_nil]
  · intro i o ho hforeign
    obtain ⟨e?, he?, hhand⟩ := hhands ho
    rw [hhand.lines]
    rcases e? with _ | ⟨b⟩ | ⟨source⟩
    · rfl
    · rfl
    · exact absurd he? (hforeign source)
  · intro i o ho
    obtain ⟨e?, he?, hhand⟩ := hhands ho
    rw [hhand.kept.keys, keep_templates he?]

/-- **Each template is compiled once.**  Whatever formats a catalog starts with and whatever is
commanded, it shares its compilations. -/
theorem shares_compilations (initial : Table (Entry β)) (defaultName : String)
    (run : List (Command β)) :
    Shares (selections (definitions initial defaultName []) run)
      (outcomes (start initial defaultName) run) := by
  have hstart : Represents (definitions initial defaultName []) (start initial defaultName) :=
    represents_after initial defaultName []
  have hkept : HasKept [] (start initial defaultName) := rfl
  apply shares_of_hands
  · intro i o ho
    obtain ⟨e?, he?, hhands⟩ := hands_at hstart hkept run i ho
    exact ⟨e?, he?, foldl_keep (β := β) _ ▸ hhands⟩
  · have hlog := log_outcomes hstart hkept run
    rwa [List.map_nil, List.nil_append, foldl_keep] at hlog

/-- A name and its template share a compilation, also after the name was defined anew. -/
example :
    let run : List (Command Unit) :=
      [.lookup (.value (.text "short")), .define "short" (.builder ()), .compile (.text ""),
        .lookup (.value (.text "short")), .compile (.text ":method :url")]
    let os := outcomes (start (Table.ofList [("short", .template ":method :url")]) "short") run
    (os.map fun o => match handed? o with
      | some (.compiled k) => some k.serial
      | _ => none) = [some 0, none, none, none, some 0] ∧
    os.map (·.events.length) = [1, 0, 0, 0, 0] := by decide +kernel

end Catalog

end RequestLog
