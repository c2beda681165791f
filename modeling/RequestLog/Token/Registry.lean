import RequestLog.Act
import RequestLog.LogLine
import RequestLog.Table
import RequestLog.Token.Builtin

/-!
# Token registries

A registry holds a resolver for each token name, in order of registration. A name that is
registered again keeps its place and takes the new resolver. Resolving a token that is not
registered, or whose resolver fails, gives no value; a failure is reported in the log, if it can be
worded.
-/

namespace RequestLog

/-- What evaluates a token. It may keep a state from call to call. -/
abbrev Resolver (σ : Type) : Type := Sight → Option String → Step σ Value

/-- Brings what a resolver gave into the form that records keep: bytes are read as the characters
that they number, and anything that is not simple as it presents itself. -/
def Value.simplify (v : Value) : Except Fault Value :=
  match v with
  | .bytes b | .buffer b => .ok (.text (Text.Latin.decode b))
  | v =>
    if v.isSimple then .ok v else v.present.map .text

/-- A resolver for each token name. -/
structure Registry (ρ : Type) where
  tokens : Table ρ

namespace Registry

variable {ρ σ : Type}

/-- No tokens. -/
def empty : Registry ρ := ⟨Table.empty⟩

/-- The built-in tokens, given the resolver of each. -/
def builtin (resolver : Token.Builtin → ρ) : Registry ρ :=
  ⟨Table.ofList (Token.Builtin.all.map fun b => (b.name, resolver b))⟩

/-- The resolver of a built-in token, which keeps no state. -/
def plain (b : Token.Builtin) : Resolver σ := fun sight argument s => (b.evaluate sight argument, s)

/-- The same names with other resolvers. -/
def map {ρ' : Type} (f : ρ → ρ') (r : Registry ρ) : Registry ρ' := ⟨r.tokens.map f⟩

/-- The names in order of registration. -/
def names (r : Registry ρ) : List String := r.tokens.keys

/-- The resolver under a key. Only texts are names; a key that may change is refused. -/
def find? (r : Registry ρ) (key : Value) : Except Fault (Option ρ) :=
  match key.unhashable? with
  | some typeName => .error (.unhashable typeName)
  | none => .ok (key.text?.bind r.tokens.get?)

/-- The line that reports a name taken over. -/
def overwriting (name : String) : LogLine :=
  ⟨.debug, .tokens, "Overwriting token '" ++ name ++ "'"⟩

/-- Registers a resolver under a name. The name must be a text that is not empty, and what is
registered must be a resolver. -/
def register (name : Value) (resolver : Option ρ) : Act LogLine (Registry ρ) Unit := do
  let key ← match name with
    | .text key => if key.isEmpty then Act.fail .tokenNameInvalid else pure key
    | _ => Act.fail .tokenNameInvalid
  let found ← match resolver with
    | some found => pure found
    | none => Act.fail (.resolverNotCallable key)
  let registry ← Act.get
  if registry.tokens.contains key then Act.note (overwriting key)
  Act.modify fun r => ⟨r.tokens.insert key found⟩

/-- The line that reports a resolver that failed with a fault of this wording. -/
def failedToResolve (name wording : String) : LogLine :=
  ⟨.warning, .tokens, "Token '" ++ name ++ "' failed to resolve: " ++ wording⟩

/-- The value of one token. -/
def resolve (r : Registry (Resolver σ)) (name : String) (sight : Sight)
    (argument : Option String) : Act LogLine σ Value :=
  match r.tokens.get? name with
  | none => pure .absent
  | some resolver => do
    match ← (Act.ask (resolver sight argument)).attempt with
    | .ok v => Act.ofExcept v.simplify
    | .error f => do
      Act.note (failedToResolve name (← Act.ofExcept f.message))
      return .absent

end Registry

end RequestLog
