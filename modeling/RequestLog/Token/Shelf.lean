import RequestLog.Token.Registry

/-!
# Several registries

Registries are made empty, with the built-in tokens, or as copies, and each goes its own way from
then on. One of them is shared; it comes into being, with the built-in tokens, when it is first
asked for.
-/

namespace RequestLog

/-- The registries that are in use: those with a name, and the shared one. -/
structure Shelf (ρ : Type) where
  named : Table (Registry ρ) := Table.empty
  shared : Option (Registry ρ) := none

namespace Shelf

variable {ρ : Type}

/-- Which registry is meant. -/
inductive Place where
  | shared
  | named (name : String)
  deriving DecidableEq, Repr

/-- Which registry a new one starts as. -/
inductive Origin where
  | empty
  | builtin
  | copyOf (place : Place)
  deriving DecidableEq, Repr

/-- The registry at a place, and the shelf after it has been asked for. -/
def registryAt (resolver : Token.Builtin → ρ) (s : Shelf ρ) (place : Place) :
    Registry ρ × Shelf ρ :=
  match place with
  | .named name => ((s.named.get? name).getD Registry.empty, s)
  | .shared =>
    let r := s.shared.getD (Registry.builtin resolver)
    (r, { s with shared := some r })

/-- Puts a registry at a place. -/
def put (s : Shelf ρ) (place : Place) (r : Registry ρ) : Shelf ρ :=
  match place with
  | .named name => { s with named := s.named.insert name r }
  | .shared => { s with shared := some r }

/-- Makes a registry under a name. -/
def make (resolver : Token.Builtin → ρ) (s : Shelf ρ) (name : String) (origin : Origin) : Shelf ρ :=
  match origin with
  | .empty => s.put (.named name) Registry.empty
  | .builtin => s.put (.named name) (Registry.builtin resolver)
  | .copyOf place => let (r, s) := s.registryAt resolver place; s.put (.named name) r

/-- Registers a token in the registry at a place. -/
def register (resolver : Token.Builtin → ρ) (place : Place) (name : Value) (offered : Option ρ) :
    Act LogLine (Shelf ρ) Unit := fun s =>
  let (r, s) := s.registryAt resolver place
  Act.onPart (fun _ => r) (fun r s => s.put place r) (Registry.register name offered) s

end Shelf

end RequestLog
