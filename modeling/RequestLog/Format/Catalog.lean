import RequestLog.Format.Builder
import RequestLog.Table

/-!
# Format catalogs

A catalog gives names to formats and compiles each template once. A format is asked for by name,
by template or by builder; without either, the catalog's default name counts. Each compiled
template has a serial number, so that one sees whether two lookups gave the same.
-/

namespace RequestLog

namespace Format

/-- The template of the format that is used by default. -/
def default : String :=
  ":date :method :url :status :remote-addr :response-time :http-version " ++
    ":remote-user :res[content-length] :referrer :user-agent"

/-- The template of the short format. -/
def short : String :=
  ":remote-addr :remote-user :method :url :http-version :status " ++
    ":res[content-length] :response-time"

/-- The template of the tiny format. -/
def tiny : String := ":method :url :status :res[content-length] :response-time"

/-- How a format is given: a builder, or a value, which should be a template. -/
inductive Spec (β : Type) where
  | builder (b : β)
  | value (v : Value)

/-- The formats that a catalog starts with. -/
def builtin {β : Type} : List (String × Spec β) :=
  [("default", .value (.text default)), ("short", .value (.text short)),
    ("tiny", .value (.text tiny))]

end Format

/-- A template that a catalog has compiled, with its number. -/
structure Compiled where
  serial : Nat
  template : Template
  deriving DecidableEq, Repr

/-- What a lookup gives: a builder as it was defined, or a compiled template. -/
inductive Selected (β : Type) where
  | builder (b : β)
  | compiled (c : Compiled)

/-- The builder that was selected, where `run` says what the builders of a catalog do. -/
def Selected.toBuilder {β σ : Type} (run : β → Builder σ) : Selected β → Builder σ
  | .builder b => run b
  | .compiled c => fun registry sight => do return .record (← c.template.build registry sight)

/-- Named formats and the templates compiled so far. -/
structure Catalog (β : Type) where
  formats : Table (Format.Spec β)
  compiled : Table Compiled := Table.empty
  defaultName : Value := .text "default"

namespace Catalog

variable {β : Type}

/-- A catalog with the built-in formats. -/
def builtin : Catalog β := { formats := Table.ofList Format.builtin }

/-- Gives a name to a format, in place of any earlier one. -/
def define (name : String) (spec : Format.Spec β) : Act LogLine (Catalog β) Unit := do
  match spec with
  | .builder _ | .value (.text _) =>
    Act.modify fun c => { c with formats := c.formats.insert name spec }
  | _ => Act.fail (.formatUnusable name)

/-- The names in order. -/
def names (c : Catalog β) : List String := c.formats.keys

/-- The line that reports a compilation. -/
def compiledLine (t : Template) : LogLine :=
  ⟨.debug, .formats, "Compiled format " ++ Text.Quoted.quote t.source ++ " into " ++
    toString t.fields.length ++ " fields"⟩

/-- The compiled form of a template, from an earlier compilation if there is one. -/
def compileText (source : String) : Act LogLine (Catalog β) Compiled := do
  let catalog ← Act.get
  match catalog.compiled.get? source with
  | some c => return c
  | none => do
    let template ← Act.ofExcept (Template.compile source)
    let c : Compiled := ⟨catalog.compiled.entries.length, template⟩
    Act.modify fun k => { k with compiled := k.compiled.insert source c }
    Act.note (compiledLine template)
    return c

/-- The compiled form of a value, which should be a template. -/
def compile (v : Value) : Act LogLine (Catalog β) Compiled :=
  match v with
  | .text source => compileText source
  | v =>
    match v.unhashable? with
    | some typeName => Act.fail (.unhashable typeName)
    | none => Act.fail .templateNotText

/-- The entry under a name; an entry without a value is as good as none. -/
def entry? (c : Catalog β) (name : String) : Option (Format.Spec β) :=
  match c.formats.get? name with
  | some (.value .absent) => none
  | found => found

/-- The format under the default name, which should be a text. -/
def selectDefault (c : Catalog β) : Except Fault (Format.Spec β) :=
  match c.defaultName.unhashable?, c.defaultName.text?.bind c.entry?, c.defaultName.present with
  | some typeName, _, _ => .error (.unhashable typeName)
  | none, some spec, _ => .ok spec
  | none, none, .ok name => .error (.defaultUndefined name)
  | none, none, .error f => .error f

/-- The format that is selected by a name or template, or by nothing. -/
def select (c : Catalog β) (wanted : Option String) : Except Fault (Format.Spec β) :=
  match wanted with
  | none | some "" => c.selectDefault
  | some name => .ok ((c.entry? name).getD (.value (.text name)))

/-- The builder for a format. -/
def lookup (spec : Format.Spec β) : Act LogLine (Catalog β) (Selected β) := do
  match spec with
  | .builder b => return .builder b
  | .value v => do
    let wanted ← match v with
      | .absent => pure none
      | .text name => pure (some name)
      | _ => Act.fail .selectorUnusable
    let catalog ← Act.get
    match ← Act.ofExcept (catalog.select wanted) with
    | .builder b => return .builder b
    | .value v => return .compiled (← compile v)

end Catalog

end RequestLog
