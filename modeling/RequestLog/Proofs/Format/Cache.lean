import Mathlib.Data.List.Induction
import RequestLog.Format.Catalog
import RequestLog.Proofs.Act
import RequestLog.Proofs.Build
import RequestLog.Proofs.Token.Resolution

/-!
# What a catalog has compiled does not show

A catalog keeps what it has compiled by the text of the template, while its definitions go by name
and may be replaced at any time. `Format.Definitions` are the definitions alone: they say what a
lookup selects, and nothing is kept there. After any commands the catalog represents the definitions
that the commands have made (`represents_after`). The main statement is `answersAs_definitions`:
every answer is the one that these definitions give, so that nobody can tell what was kept.
-/

namespace RequestLog

variable {β : Type}

namespace Format

/-- A format that is fit for use: a builder or a template. -/
inductive Entry (β : Type) where
  | builder (b : β)
  | template (source : String)

/-- How an entry is given to a catalog. -/
def Entry.spec : Entry β → Spec β
  | .builder b => .builder b
  | .template source => .value (.text source)

/-- The entry that is given, if it is fit for use. -/
def Spec.entry? : Spec β → Option (Entry β)
  | .builder b => some (.builder b)
  | .value (.text source) => some (.template source)
  | .value _ => none

/-- The entry as it is served. A template must not be empty. -/
def Entry.served : Entry β → Except Fault (Entry β)
  | .template "" => .error .templateEmpty
  | e => .ok e

/-- What can be defined is an entry, as its own specification. -/
theorem Spec.entry?_eq_some_iff {spec : Spec β} {e : Entry β} :
    spec.entry? = some e ↔ spec = e.spec := by
  cases e with
  | builder b =>
      cases spec with
      | builder b' => simp [Spec.entry?, Entry.spec]
      | value v => cases v <;> simp [Spec.entry?, Entry.spec]
  | template source =>
      cases spec with
      | builder b' => simp [Spec.entry?, Entry.spec]
      | value v => cases v <;> simp [Spec.entry?, Entry.spec]

/-- Neither a name nor a template nor a builder is asked for, so that the default counts. -/
def Spec.IsNothing (spec : Spec β) : Prop := spec = .value .absent ∨ spec = .value (.text "")

/-- What is asked for is neither nothing nor a text nor a builder. -/
def Spec.IsForeign (spec : Spec β) : Prop :=
  ∃ v, spec = .value v ∧ v ≠ .absent ∧ ∀ text, v ≠ .text text

/-- The format under each name, and the name that counts when none is asked for. -/
structure Definitions (β : Type) where
  entry? : String → Option (Entry β)
  defaultName : String

namespace Definitions

/-- The format that is asked for. A text is a name, or a template if no format has this name; the
empty text is as good as nothing. -/
def choose (d : Definitions β) : Spec β → Except Fault (Entry β)
  | .builder b => .ok (.builder b)
  | .value .absent | .value (.text "") =>
    (d.entry? d.defaultName).elim (.error (.defaultUndefined d.defaultName)) .ok
  | .value (.text name) => .ok ((d.entry? name).getD (.template name))
  | .value _ => .error .selectorUnusable

/-- The format that a lookup gives: the one that is asked for, if it can be served. -/
def lookup (d : Definitions β) (spec : Spec β) : Except Fault (Entry β) := do
  (← d.choose spec).served

/-- A text chooses the format of that name, or stands for itself as a template. -/
theorem choose_text (d : Definitions β) {name : String} (h : name ≠ "") :
    d.choose (.value (.text name)) = .ok ((d.entry? name).getD (.template name)) := by
  grind [choose]

/-- Nothing chooses the default format, if it is defined. -/
theorem choose_nothing (d : Definitions β) {spec : Spec β} (h : spec.IsNothing) :
    d.choose spec =
      (d.entry? d.defaultName).elim (.error (.defaultUndefined d.defaultName)) .ok := by
  rcases h with rfl | rfl <;> rfl

/-- There is no format to choose if the default is needed and not defined, and for what is
foreign. -/
theorem choose_eq_error_iff (d : Definitions β) (spec : Spec β) (f : Fault) :
    d.choose spec = .error f ↔
      spec.IsNothing ∧ d.entry? d.defaultName = none ∧ f = .defaultUndefined d.defaultName ∨
        spec.IsForeign ∧ f = .selectorUnusable := by
  cases spec with
  | builder b => simp [choose, Spec.IsNothing, Spec.IsForeign]
  | value v =>
      by_cases hnothing : (Spec.value v : Spec β).IsNothing
      · have hnative : ¬(Spec.value v : Spec β).IsForeign := by
          rintro ⟨w, hw, habsent, htext⟩
          rcases hnothing with h | h
          · exact habsent (Spec.value.inj (hw.symm.trans h))
          · exact htext "" (Spec.value.inj (hw.symm.trans h))
        rw [d.choose_nothing hnothing]
        cases d.entry? d.defaultName <;> simp [hnothing, hnative, eq_comm]
      · cases v with
        | absent => exact absurd (.inl rfl) hnothing
        | text name =>
            have hname : name ≠ "" := by
              rintro rfl
              exact hnothing (.inr rfl)
            simp [d.choose_text hname, hnothing, Spec.IsForeign]
        | _ => simp [choose, hnothing, Spec.IsForeign, eq_comm]

/-- A lookup fails where nothing can be chosen, or an empty template is. -/
theorem lookup_eq_error_iff (d : Definitions β) (spec : Spec β) (f : Fault) :
    d.lookup spec = .error f ↔
      d.choose spec = .error f ∨ d.choose spec = .ok (.template "") ∧ f = .templateEmpty := by
  rw [lookup]
  cases d.choose spec with
  | error g =>
      change Except.error g = Except.error f ↔ _
      simp
  | ok e =>
      change e.served = .error f ↔ _
      unfold Entry.served
      split
      · simp [eq_comm]
      · rename_i hserved
        simpa using fun h _ => hserved h

end Definitions

end Format

open Format

/-- What a lookup gives for a format: a builder itself, or the template compiled, with its text and
a field for each of its distinct placeholders. -/
inductive Selected.Serves : Entry β → Selected β → Prop
  | builder (b : β) : Serves (.builder b) (.builder b)
  | template {source : String} {c : Compiled} (hsource : c.template.source = source)
      (hkeys : c.template.keys = (Template.references source).map Placeholder.key) :
      Serves (.template source) (.compiled c)

namespace Catalog

/-! ### Commands -/

/-- What a catalog is asked to do. -/
inductive Command (β : Type) where
  | define (name : String) (spec : Spec β)
  | compile (v : Value)
  | lookup (spec : Spec β)
  | get (name : String)
  | names

/-- What the catalog replies. -/
inductive Reply (β : Type) where
  | done
  | compiled (c : Compiled)
  | selected (s : Selected β)
  | format (found : Option (Spec β))
  | names (ns : List String)

/-- Does what is asked. -/
def perform : Command β → Act LogLine (Catalog β) (Reply β)
  | .define name spec => do
    define name spec
    return .done
  | .compile v => do return .compiled (← compile v)
  | .lookup spec => do return .selected (← lookup spec)
  | .get name => do return .format ((← Act.get).formats.get? name)
  | .names => do return .names (← Act.get).names

/-- A catalog that starts with some formats and a default name. -/
def start (initial : Table (Entry β)) (defaultName : String) : Catalog β where
  formats := initial.map Entry.spec
  defaultName := .text defaultName

/-- The catalog after commands, whether they failed or not. -/
def after (c : Catalog β) (commands : List (Command β)) : Catalog β :=
  Act.stateAfter perform c commands

/-- The name and the format that a command defines, if it does. -/
def Command.definition? : Command β → Option (String × Entry β)
  | define name spec => spec.entry?.map (name, ·)
  | _ => none

/-- The definitions after commands: under each name the format that was defined last, or else the
one that the catalog started with. -/
def definitions (initial : Table (Entry β)) (defaultName : String) (commands : List (Command β)) :
    Definitions β where
  entry? name := ((commands.filterMap (·.definition?)).reverse.lookup name).or (initial.get? name)
  defaultName := defaultName

/-! ### What is kept -/

/-- Everything that is kept is what compiling the template comes to. -/
def IsSound (c : Catalog β) : Prop :=
  ∀ source k, c.compiled.get? source = some k → Template.compile source = .ok k.template

/-- The catalog has the same definitions still, and what it keeps is sound. -/
structure Keeps (c c' : Catalog β) : Prop where
  formats : c'.formats = c.formats
  defaultName : c'.defaultName = c.defaultName
  sound : c'.IsSound

/-- An act that serves a format, or fails, leaves the definitions as they are; where it fails it
leaves everything as it is. -/
inductive Comes {α γ : Type} (serves : γ → α → Prop) (c : Catalog β) :
    Except Fault γ → Outcome LogLine (Catalog β) α → Prop
  | fails (f : Fault) : Comes serves c (.error f) ⟨[], .error f, c⟩
  | serves {g : γ} {a : α} {c' : Catalog β} (lines : List LogLine) (hserves : serves g a)
      (hkeeps : Keeps c c') : Comes serves c (.ok g) ⟨lines, .ok a, c'⟩

variable {c : Catalog β}

/-- What is made of a value that was given, and of nothing else, is served the same way. -/
theorem Comes.map {α α' γ γ' : Type} {serves : γ → α → Prop} {serves' : γ' → α' → Prop}
    {r : Except Fault γ} {m : Act LogLine (Catalog β) α} (h : Comes serves c r (m c)) {φ : γ → γ'}
    {f : α → α'} (hmap : ∀ g a, r = .ok g → serves g a → serves' (φ g) (f a)) :
    Comes serves' c (r.map φ) ((m >>= fun a => pure (f a)) c) := by
  rw [Act.bind_pure_apply]
  generalize m c = o at h ⊢
  cases h with
  | fails fault => exact .fails fault
  | serves lines hserves hkeeps => exact .serves lines (hmap _ _ rfl hserves) hkeeps

/-- Where nothing was given, everything is as it was. -/
theorem Comes.state_eq {α γ : Type} {serves : γ → α → Prop} {r : Except Fault γ}
    {o : Outcome LogLine (Catalog β) α} (h : Comes serves c r o) {f : Fault}
    (hresult : o.result = .error f) : o.state = c := by
  cases h with
  | fails f' => rfl
  | serves lines hserves hkeeps => cases hresult

/-- Whatever it comes to, the catalog keeps what it has compiled. -/
theorem Comes.keeps {α γ : Type} {serves : γ → α → Prop} {r : Except Fault γ}
    {o : Outcome LogLine (Catalog β) α} (h : Comes serves c r o) (hsound : c.IsSound) :
    Keeps c o.state := by
  cases h with
  | fails f => exact ⟨rfl, rfl, hsound⟩
  | serves lines hserves hkeeps => exact hkeeps

/-- Compiling gives what the template compiles to, kept or not. -/
theorem comes_compileText (h : c.IsSound) (source : String) :
    Comes (fun t k => k.template = t) c (Template.compile source) (compileText source c) := by
  unfold compileText
  rw [Act.bind_of_ok (Act.get_apply c), Outcome.after_nil]
  cases hfound : c.compiled.get? source with
  | some k =>
      rw [h source k hfound]
      exact .serves [] rfl ⟨rfl, rfl, h⟩
  | none =>
      dsimp only
      cases hcompile : Template.compile source with
      | error f => exact .fails f
      | ok t =>
          refine .serves [compiledLine t] rfl ⟨rfl, rfl, ?_⟩
          intro source' k hk
          change (c.compiled.insert source _).get? source' = some k at hk
          rw [Table.get?_insert] at hk
          split at hk
          · subst source'
            cases hk
            exact hcompile
          · exact h source' k hk

variable {d : Definitions β}

/-- The catalog has the definitions, and what it keeps is sound. -/
structure Represents (d : Definitions β) (c : Catalog β) : Prop where
  formats : ∀ name, c.formats.get? name = (d.entry? name).map Entry.spec
  defaultName : c.defaultName = .text d.defaultName
  sound : c.IsSound

/-- A catalog that keeps more represents the same definitions. -/
theorem Represents.keeps {c' : Catalog β} (h : Represents d c) (hkeeps : Keeps c c') :
    Represents d c' where
  formats := hkeeps.formats ▸ h.formats
  defaultName := hkeeps.defaultName.trans h.defaultName
  sound := hkeeps.sound

/-- The catalog has the entries of the definitions. -/
theorem Represents.entry? (h : Represents d c) (name : String) :
    c.entry? name = (d.entry? name).map Entry.spec := by
  unfold Catalog.entry?
  rw [h.formats]
  cases d.entry? name with
  | none => rfl
  | some e => cases e <;> rfl

/-- The catalog selects the default format of the definitions. -/
theorem Represents.selectDefault (h : Represents d c) :
    c.selectDefault = ((d.entry? d.defaultName).elim
      (.error (.defaultUndefined d.defaultName)) .ok : Except Fault (Entry β)).map Entry.spec := by
  unfold Catalog.selectDefault
  rw [h.defaultName]
  simp only [Value.unhashable?, Value.text?, Option.bind_some, h.entry?, Value.present]
  cases d.entry? d.defaultName <;> rfl

/-- What is selected is what the definitions choose. -/
theorem Represents.select (h : Represents d c) {v : Value} {wanted : Option String}
    (hv : v = wanted.elim .absent .text) :
    c.select wanted = (d.choose (.value v)).map Entry.spec := by
  subst hv
  unfold Catalog.select
  split
  · exact h.selectDefault
  · exact h.selectDefault
  · rename_i name hname
    rw [h.entry?, Option.elim_some, d.choose_text hname]
    cases d.entry? name <;> rfl

/-- What is handed out for a format that was chosen. -/
def serve : Entry β → Act LogLine (Catalog β) (Selected β)
  | .builder b => pure (.builder b)
  | .template source => do return .compiled (← compile (.text source))

/-- A format that is selected is served. -/
theorem comes_served (h : c.IsSound) (e : Entry β) :
    Comes Selected.Serves c e.served (serve e c) := by
  cases e with
  | builder b => exact .serves [] (.builder b) ⟨rfl, rfl, h⟩
  | template source =>
      have hserved : (Entry.template source : Entry β).served =
          (Template.compile source).map fun t => .template t.source := by
        unfold Entry.served Template.compile
        split <;> simp_all [Except.map]
      rw [hserved]
      refine (comes_compileText h source).map ?_
      rintro t k ht rfl
      obtain ⟨-, hk⟩ := Template.compile_eq_ok_iff.mp ht
      exact .template rfl (by rw [Template.keys, hk])

/-- A lookup chooses among the definitions and serves what it has chosen. -/
theorem Represents.lookup_apply (h : Represents d c) (spec : Spec β) :
    lookup spec c = (Act.ofExcept (d.choose spec) >>= serve) c := by
  have hvalue : ∀ (v : Value) (wanted : Option String)
      (hand : Spec β → Act LogLine (Catalog β) (Selected β)), v = wanted.elim .absent .text →
      lookup (.value v) c = (Act.ofExcept (c.select wanted) >>= hand) c →
      (∀ e : Entry β, hand e.spec = serve e) →
      lookup (.value v) c = (Act.ofExcept (d.choose (.value v)) >>= serve) c := by
    intro v wanted hand hv hlookup hhand
    rw [hlookup, h.select hv]
    cases d.choose (.value v) with
    | error f => rfl
    | ok e => exact congrFun (hhand e) c
  cases spec with
  | builder b => rfl
  | value v =>
      cases v with
      | absent => exact hvalue _ none _ rfl rfl fun e => by cases e <;> rfl
      | text name => exact hvalue _ (some name) _ rfl rfl fun e => by cases e <;> rfl
      | _ => rfl

/-- **One lookup.**  A lookup gives what the definitions select. -/
theorem comes_lookup (h : Represents d c) (spec : Spec β) :
    Comes Selected.Serves c (d.lookup spec) (lookup spec c) := by
  rw [h.lookup_apply, Definitions.lookup]
  cases d.choose spec with
  | error f => exact .fails f
  | ok e => exact comes_served h.sound e

/-! ### One command and many -/

/-- A definition replaces the format of the name, or is refused. -/
theorem define_apply (name : String) (spec : Spec β) (c : Catalog β) :
    define name spec c = match spec.entry? with
      | some e => ⟨[], .ok (), { c with formats := c.formats.insert name e.spec }⟩
      | none => ⟨[], .error (.formatUnusable name), c⟩ := by
  cases spec with
  | builder b => rfl
  | value v => cases v <;> rfl

/-- A value that is compiled is a template. -/
theorem comes_compile (h : c.IsSound) (v : Value) :
    ∃ r : Except Fault Template, Comes (fun t k => k.template = t) c r (compile v c) := by
  unfold compile
  split
  · exact ⟨_, comes_compileText h _⟩
  · cases v.unhashable? with
    | some typeName => exact ⟨_, .fails _⟩
    | none => exact ⟨_, .fails _⟩

/-- The definitions after a command. -/
def Command.revise (command : Command β) (d : Definitions β) : Definitions β :=
  { d with entry? := fun name => (command.definition?.toList.lookup name).or (d.entry? name) }

/-- A definition changes the entry of its name alone. -/
theorem entry?_revise_define (d : Definitions β) (name other : String) (e : Entry β) :
    Definitions.entry? ((Command.define name e.spec).revise d) other =
      if other = name then some e else d.entry? other := by
  have hdefinition : (Command.define name e.spec).definition? = some (name, e) := by
    rw [Command.definition?, Spec.entry?_eq_some_iff.mpr rfl, Option.map_some]
  rw [Command.revise, hdefinition]
  by_cases hname : other = name
  · simp [hname]
  · simp [hname, List.lookup_cons, beq_eq_false_iff_ne.mpr hname]

/-- A definition is represented when it is made in the catalog. -/
theorem Represents.define (h : Represents d c) (name : String) (e : Entry β) :
    Represents ((Command.define name e.spec).revise d)
      { c with formats := c.formats.insert name e.spec } where
  formats := by
    intro other
    rw [Table.get?_insert, h.formats, entry?_revise_define]
    split <;> rfl
  defaultName := h.defaultName
  sound := h.sound

/-- Whatever is commanded, a catalog that fails is as it was, and one that does not has the
definitions that were asked for. -/
theorem Represents.perform (h : Represents d c) (command : Command β) :
    Represents (command.revise d) (perform command c).state ∧
      ∀ f, (Catalog.perform command c).result = .error f →
        (Catalog.perform command c).state = c := by
  cases command with
  | define name spec =>
      cases hspec : spec.entry? with
      | some e =>
          obtain rfl := Spec.entry?_eq_some_iff.mp hspec
          rw [Catalog.perform, Act.bind_apply, define_apply, hspec]
          exact ⟨h.define name e, fun f hf => by cases hf⟩
      | none =>
          rw [Catalog.perform, Act.bind_apply, define_apply, hspec]
          refine ⟨?_, fun f hf => rfl⟩
          simpa [Command.revise, Command.definition?, hspec] using h
  | compile v =>
      obtain ⟨r, hcomes⟩ := comes_compile h.sound v
      have hperform : Comes (fun _ _ => True) c (r.map id) (Catalog.perform (.compile v) c) :=
        hcomes.map fun _ _ _ _ => trivial
      exact ⟨h.keeps (hperform.keeps h.sound), fun f hf => hperform.state_eq hf⟩
  | lookup spec =>
      have hperform : Comes (fun _ _ => True) c ((d.lookup spec).map id)
          (Catalog.perform (.lookup spec) c) := (comes_lookup h spec).map fun _ _ _ _ => trivial
      exact ⟨h.keeps (hperform.keeps h.sound), fun f hf => hperform.state_eq hf⟩
  | get name => exact ⟨h, fun f hf => by cases hf⟩
  | names => exact ⟨h, fun f hf => by cases hf⟩

/-- The last command revises the definitions that those before it have left. -/
theorem definitions_snoc (initial : Table (Entry β)) (defaultName : String)
    (commands : List (Command β)) (command : Command β) :
    definitions initial defaultName (commands ++ [command]) =
      command.revise (definitions initial defaultName commands) := by
  simp only [definitions, Command.revise, Act.lookup_filterMap_concat, Option.or_assoc]

/-- **After any commands.**  A catalog represents the definitions that the commands have made. -/
theorem represents_after (initial : Table (Entry β)) (defaultName : String)
    (commands : List (Command β)) :
    Represents (definitions initial defaultName commands)
      ((start initial defaultName).after commands) := by
  induction commands using List.reverseRecOn with
  | nil =>
      refine ⟨?_, rfl, fun source k hk => nomatch hk⟩
      intro name
      exact lookup_map (fun _ => Entry.spec) initial.entries name
  | append_singleton commands command ih =>
      rw [after, Act.stateAfter_concat, definitions_snoc]
      exact (ih.perform command).1

/-! ### What a catalog answers -/

/-- A lookup came to what it should. -/
def Gives : Except Fault (Entry β) → Except Fault (Selected β) → Prop
  | .ok e, found => ∃ s, found = .ok s ∧ Selected.Serves e s
  | .error f, found => found = .error f

/-- What is selected serves what was chosen. -/
theorem Comes.gives {r : Except Fault (Entry β)} {o : Outcome LogLine (Catalog β) (Selected β)}
    (h : Comes Selected.Serves c r o) : Gives r o.result := by
  cases h with
  | fails f => rfl
  | serves lines hserves hkeeps => exact ⟨_, rfl, hserves⟩

/-- The catalog answers as the definitions say, as if it kept nothing: a lookup gives what they
select. It fails for what is neither a text nor a builder, and for a default format that is not
there or a template without characters. What is defined counts from then on, and what fails changes
nothing, neither the definitions nor what is kept. -/
structure AnswersAs (d : Definitions β) (c : Catalog β) : Prop where
  lookup : ∀ spec, Gives (d.lookup spec) (Catalog.lookup spec c).result
  type_iff : ∀ spec, (∃ f, (Catalog.lookup spec c).result = .error f ∧ f.kind = .type) ↔
    spec.IsForeign
  value_iff : ∀ spec, (∃ f, (Catalog.lookup spec c).result = .error f ∧ f.kind = .value) ↔
    spec.IsNothing ∧ d.entry? d.defaultName = none ∨ d.choose spec = .ok (.template "")
  compile : ∀ source : String, Gives (Entry.template source : Entry β).served
    ((Catalog.compile (.text source) c).result.map .compiled)
  get : ∀ name, (perform (.get name) c).result = .ok (.format ((d.entry? name).map Entry.spec))
  names : ∀ name, name ∈ c.names ↔ d.entry? name ≠ none
  redefined : ∀ (name : String) (e : Entry β), name ≠ "" →
    Gives e.served (Catalog.lookup (.value (.text name))
      (perform (.define name e.spec) c).state).result
  default_redefined : ∀ e : Entry β,
    Gives e.served (Catalog.lookup (.value .absent)
      (perform (.define d.defaultName e.spec) c).state).result
  failed : ∀ command f, (perform command c).result = .error f → (perform command c).state = c

/-- A lookup fails exactly if it should, and with the same fault. -/
theorem Gives.error_iff {r : Except Fault (Entry β)} {found : Except Fault (Selected β)}
    (h : Gives r found) (f : Fault) : found = .error f ↔ r = .error f := by
  cases r with
  | error g =>
      obtain rfl := h
      simp
  | ok e =>
      obtain ⟨s, rfl, -⟩ := h
      simp

/-- A format that was defined under a name is the one that is found there. -/
theorem Represents.gives_defined (h : Represents d c) {name : String} {e : Entry β} {spec : Spec β}
    (hchoose : ((Command.define name e.spec).revise d).choose spec = .ok e) :
    Gives e.served
      (Catalog.lookup spec (Catalog.perform (Command.define name e.spec) c).state).result := by
  have hgives := (comes_lookup (h.perform (Command.define name e.spec)).1 spec).gives
  rw [Definitions.lookup, hchoose] at hgives
  exact hgives

/-- A catalog that represents definitions answers as they do. -/
theorem Represents.answersAs (h : Represents d c) : AnswersAs d c where
  lookup spec := (comes_lookup h spec).gives
  type_iff spec := by
    have hgives := (comes_lookup h spec).gives
    simp only [hgives.error_iff, d.lookup_eq_error_iff, d.choose_eq_error_iff]
    constructor
    · rintro ⟨f, (⟨-, -, rfl⟩ | ⟨hforeign, -⟩) | ⟨-, rfl⟩, hkind⟩
      · cases hkind
      · exact hforeign
      · cases hkind
    · intro hforeign
      exact ⟨.selectorUnusable, .inl (.inr ⟨hforeign, rfl⟩), rfl⟩
  value_iff spec := by
    have hgives := (comes_lookup h spec).gives
    simp only [hgives.error_iff, d.lookup_eq_error_iff, d.choose_eq_error_iff]
    constructor
    · rintro ⟨f, (⟨hnothing, hnone, -⟩ | ⟨-, rfl⟩) | ⟨hempty, -⟩, hkind⟩
      · exact .inl ⟨hnothing, hnone⟩
      · cases hkind
      · exact .inr hempty
    · rintro (⟨hnothing, hnone⟩ | hempty)
      · exact ⟨_, .inl (.inl ⟨hnothing, hnone, rfl⟩), rfl⟩
      · exact ⟨_, .inr ⟨hempty, rfl⟩, rfl⟩
  compile source := by
    have hgives := (comes_served h.sound (.template source)).gives
    simpa only [serve, Act.bind_pure_apply] using hgives
  get name := by
    change Except.ok (Reply.format (c.formats.get? name)) = _
    rw [h.formats]
  names name := by
    have hunknown : name ∉ c.names ↔ d.entry? name = none := by
      rw [Catalog.names, ← Table.get?_eq_none_iff, h.formats, Option.map_eq_none_iff]
    rw [← not_iff_not, hunknown, not_not]
  redefined name e hname := by
    apply h.gives_defined
    rw [Definitions.choose_text _ hname, entry?_revise_define, if_pos rfl, Option.getD_some]
  default_redefined e := by
    apply h.gives_defined
    have hname : ((Command.define d.defaultName e.spec).revise d).defaultName = d.defaultName := rfl
    rw [Definitions.choose_nothing _ (.inl rfl), entry?_revise_define, if_pos hname]
    rfl
  failed command f := (h.perform command).2 f

/-- **A catalog keeps what it has compiled without a trace.**  Whatever formats it starts with and
whatever is commanded, it answers as the definitions that were made. -/
theorem answersAs_definitions (initial : Table (Entry β)) (defaultName : String)
    (commands : List (Command β)) :
    AnswersAs (definitions initial defaultName commands)
      ((start initial defaultName).after commands) :=
  (represents_after initial defaultName commands).answersAs

/-- A name is defined anew after its first template was compiled, and the next lookup sees it. -/
example :
    let c : Catalog Unit := (start (Table.ofList [("short", .template ":url")]) "short").after
      [.lookup (.value .absent), .define "short" (.value (.text ":method :status"))]
    c.compiled.keys = [":url"] ∧
      (match (lookup (.value (.text "")) c).result with
        | .ok (.compiled k) => k.template.keys
        | _ => []) = ["method", "status"] := by decide +kernel

end Catalog

end RequestLog
