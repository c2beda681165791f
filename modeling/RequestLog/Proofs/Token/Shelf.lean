import Mathlib.Data.List.Induction
import RequestLog.Proofs.Act
import RequestLog.Proofs.Build
import RequestLog.Proofs.Token.Resolution
import RequestLog.Token.Shelf

/-!
# Registries side by side

Registries are made, looked at and registered in, in any order. What each of them holds is told by
the commands that concern it alone: it `Extends` what it was made of by what has been registered in
it since. One command changes one registry at most (`registry_perform_of_ne`), and from this it
follows by induction for all commands (`extends_after`). The main statement is
`independent_after`.
-/

namespace RequestLog

variable {ρ : Type}

/-! ### What registering does -/

namespace Registry

/-- The registry holds what another one held and what has been registered since. New names stand
behind the others in the order in which they came; under each name is what was registered last. -/
structure Extends (base : Registry ρ) (registrations : List (String × ρ)) (r : Registry ρ) :
    Prop where
  names : r.names = (base.names ++ registrations.map (·.1)).eraseDups
  resolver : ∀ name, r.tokens.get? name =
    (registrations.reverse.lookup name).or (base.tokens.get? name)

theorem Extends.refl (r : Registry ρ) : Extends r [] r where
  names := by
    rw [List.map_nil, List.append_nil]
    exact (eraseDups_of_nodup r.tokens.nodup).symm
  resolver _ := rfl

/-- One more registration. -/
theorem Extends.insert {base r : Registry ρ} {registrations : List (String × ρ)}
    (h : Extends base registrations r) (name : String) (x : ρ) :
    Extends base (registrations ++ [(name, x)]) ⟨r.tokens.insert name x⟩ where
  names := by
    have hkeys : r.tokens.keys = (base.names ++ registrations.map (·.1)).eraseDups := h.names
    rw [Registry.names, Table.keys_insert, hkeys, List.map_append, ← List.append_assoc]
    simp only [List.map_cons, List.map_nil, eraseDups_concat, List.mem_eraseDups]
  resolver other := by
    rw [Table.get?_insert, h.resolver, List.reverse_append]
    by_cases hname : other = name
    · simp [hname]
    · simp [hname, List.lookup_cons, beq_eq_false_iff_ne.mpr hname]

/-- The token that is registered, if the name is a text that is not empty and something is offered
that can be called. -/
def registered? (name : Value) (offered : Option ρ) : Option (String × ρ) :=
  match name, offered with
  | .text key, some x => if key = "" then none else some (key, x)
  | _, _ => none

/-- Registering adds the token if there is one, and changes nothing otherwise. -/
theorem register_apply (name : Value) (offered : Option ρ) (r : Registry ρ) :
    ∃ lines, register name offered r = match registered? name offered with
      | some (key, x) => ⟨lines, .ok (), ⟨r.tokens.insert key x⟩⟩
      | none => ⟨[], .error (match name with
        | .text key => if key = "" then .tokenNameInvalid else .resolverNotCallable key
        | _ => .tokenNameInvalid), r⟩ := by
  unfold register
  cases name with
  | text key =>
      by_cases hkey : key = ""
      · subst hkey
        exact ⟨[], by cases offered <;> rfl⟩
      · have hnonempty : key.isEmpty = false := by simpa using hkey
        cases offered with
        | none => exact ⟨[], by simp [registered?, hkey, hnonempty]; rfl⟩
        | some x =>
            refine ⟨if r.tokens.contains key then [overwriting key] else [], ?_⟩
            cases hcontains : r.tokens.contains key <;>
              simp [registered?, hkey, hnonempty, Act.bind_apply, hcontains, Outcome.after]
  | _ => exact ⟨[], rfl⟩

end Registry

/-! ### What one command does -/

namespace Shelf

/-- What is done with registries: one is made, or looked at, or a token is registered in it. -/
inductive Command (ρ : Type) where
  | make (name : String) (origin : Origin)
  | look (place : Place)
  | register (place : Place) (name : Value) (offered : Option ρ)

/-- The registry that a command may change. -/
def Command.changed? : Command ρ → Option Place
  | make name _ => some (.named name)
  | look _ => none
  | register place _ _ => some place

/-- The command makes the registry at a place. -/
def Command.Makes (place : Place) : Command ρ → Prop
  | make name _ => place = .named name
  | _ => False

/-- The token that a command registers at a place, if it registers one there. -/
def Command.registered? (place : Place) : Command ρ → Option (String × ρ)
  | register p name offered => if p = place then Registry.registered? name offered else none
  | _ => none

variable (resolver : Token.Builtin → ρ)

/-- Does what is commanded. -/
def perform : Command ρ → Act LogLine (Shelf ρ) Unit
  | .make name origin => Act.modify fun s => s.make resolver name origin
  | .look place => Act.modify fun s => (s.registryAt resolver place).2
  | .register place name offered => register resolver place name offered

/-- The shelf after commands, whether they failed or not. -/
def after (s : Shelf ρ) (commands : List (Command ρ)) : Shelf ρ :=
  Act.stateAfter (perform resolver) s commands

/-- The registry at a place. -/
def registry (s : Shelf ρ) (place : Place) : Registry ρ := (s.registryAt resolver place).1

/-- What a registry is made of: nothing, the built-in tokens, or what another one holds now. -/
def origin (s : Shelf ρ) : Origin → Registry ρ
  | .empty => Registry.empty
  | .builtin => Registry.builtin resolver
  | .copyOf place => s.registry resolver place

variable {resolver} {s : Shelf ρ}

/-- A registry that is put in a place is found there, and all others are found as before. -/
theorem registry_put (s : Shelf ρ) (place other : Place) (r : Registry ρ) :
    (s.put place r).registry resolver other =
      if other = place then r else s.registry resolver other := by
  cases place with
  | shared => cases other <;> simp [registry, registryAt, put]
  | named name =>
      cases other with
      | shared => simp [registry, registryAt, put]
      | named other =>
          by_cases h : other = name <;> simp [registry, registryAt, put, Table.get?_insert, h]

/-- Asking for a registry changes none, though the shared one may come into being. -/
theorem registry_registryAt (s : Shelf ρ) (place other : Place) :
    (s.registryAt resolver place).2.registry resolver other = s.registry resolver other := by
  cases place with
  | named name => rfl
  | shared => cases other <;> rfl

/-- A new registry is what it is made of; no other one is changed. -/
theorem registry_make (s : Shelf ρ) (name : String) (o : Origin) (other : Place) :
    (s.make resolver name o).registry resolver other =
      if other = .named name then s.origin resolver o else s.registry resolver other := by
  cases o with
  | empty => exact registry_put s (.named name) other Registry.empty
  | builtin => exact registry_put s (.named name) other (Registry.builtin resolver)
  | copyOf place =>
      simp only [make, origin]
      rw [registry_put, registry_registryAt]
      rfl

/-- Whether a registration succeeds is decided by the registry at its place alone. -/
theorem register_result (s : Shelf ρ) (place : Place) (name : Value) (offered : Option ρ) :
    (register resolver place name offered s).result =
      (Registry.register name offered (s.registry resolver place)).result := rfl

/-- Registering a token in the registry at a place changes this registry alone, and as registering
does. -/
theorem registry_register (s : Shelf ρ) (place : Place) (name : Value) (offered : Option ρ)
    (other : Place) :
    (register resolver place name offered s).state.registry resolver other =
      if other = place then (Registry.register name offered (s.registry resolver place)).state
      else s.registry resolver other := by
  change ((s.registryAt resolver place).2.put place _).registry resolver other = _
  rw [registry_put, registry_registryAt]
  rfl

/-- A registry is changed by the commands that may change it, and by no other ones. -/
theorem registry_perform_of_ne (s : Shelf ρ) {command : Command ρ} {place : Place}
    (h : command.changed? ≠ some place) :
    (perform resolver command s).state.registry resolver place = s.registry resolver place := by
  cases command with
  | make name o =>
      have hplace : place ≠ .named name := fun heq => h (by rw [heq]; rfl)
      rw [perform, Act.modify_apply, registry_make, if_neg hplace]
  | look other => exact registry_registryAt s other place
  | register other name offered =>
      have hplace : place ≠ other := fun heq => h (by rw [heq]; rfl)
      rw [perform, registry_register, if_neg hplace]

/-- One more command, which does not make the registry: what it registers there is added. -/
theorem extends_perform {base : Registry ρ} {registrations : List (String × ρ)} {place : Place}
    (h : Registry.Extends base registrations (s.registry resolver place)) (command : Command ρ)
    (hmakes : ¬command.Makes place) :
    Registry.Extends base (registrations ++ (command.registered? place).toList)
      ((perform resolver command s).state.registry resolver place) := by
  by_cases hchanged : command.changed? = some place
  -- It may change the registry and does not make it, so it registers a token there.
  · cases command with
    | make name o => exact absurd (Option.some.inj hchanged).symm hmakes
    | look other => cases hchanged
    | register other name offered =>
        obtain rfl : other = place := Option.some.inj hchanged
        obtain ⟨lines, happly⟩ :=
          Registry.register_apply name offered (s.registry resolver other)
        rw [perform, registry_register, if_pos rfl, happly, Command.registered?, if_pos rfl]
        cases Registry.registered? name offered with
        | none => simpa using h
        | some token => exact h.insert token.1 token.2
  · have hnone : command.registered? place = none := by
      cases command with
      | register other name offered =>
          exact if_neg fun heq => hchanged (by rw [heq]; rfl)
      | _ => rfl
    rw [registry_perform_of_ne s hchanged, hnone]
    simpa using h

/-- **The registrations that count.**  Commands that do not make a registry add to it what they
register in it. -/
theorem extends_after (s : Shelf ρ) (place : Place) (commands : List (Command ρ))
    (hmakes : ∀ c ∈ commands, ¬c.Makes place) :
    Registry.Extends (s.registry resolver place) (commands.filterMap (·.registered? place))
      ((s.after resolver commands).registry resolver place) := by
  induction commands using List.reverseRecOn with
  | nil => exact .refl _
  | append_singleton commands command ih =>
      have hbefore := ih fun c hc => hmakes c (List.mem_append_left _ hc)
      rw [after, Act.stateAfter_concat, Act.filterMap_concat]
      exact extends_perform hbefore command (hmakes command (by simp))

theorem after_append (s : Shelf ρ) (before since : List (Command ρ)) :
    s.after resolver (before ++ since) = (s.after resolver before).after resolver since :=
  Act.stateAfter_append ..

/-- A registry that has been made, and not made anew since, extends what it was made of. -/
theorem extends_since_made (s : Shelf ρ) (before since : List (Command ρ)) (name : String)
    (o : Origin) (hmakes : ∀ c ∈ since, ¬c.Makes (.named name)) :
    Registry.Extends ((s.after resolver before).origin resolver o)
      (since.filterMap (·.registered? (.named name)))
      ((s.after resolver (before ++ .make name o :: since)).registry resolver (.named name)) := by
  have hmade : (perform resolver (.make name o) (s.after resolver before)).state.registry resolver
      (.named name) = (s.after resolver before).origin resolver o := by
    rw [perform, Act.modify_apply, registry_make, if_pos rfl]
  rw [after_append, ← hmade]
  exact extends_after _ (.named name) since hmakes

/-- Registering is refused for what is not a name, and for a name with which nothing is offered that
can be called. -/
theorem register_eq_error_iff (s : Shelf ρ) (place : Place) (name : Value) (offered : Option ρ)
    (f : Fault) :
    (register resolver place name offered s).result = .error f ↔
      (∀ key, name = .text key → key = "") ∧ f = .tokenNameInvalid ∨
        ∃ key, name = .text key ∧ key ≠ "" ∧ offered = none ∧ f = .resolverNotCallable key := by
  obtain ⟨lines, happly⟩ := Registry.register_apply name offered (s.registry resolver place)
  rw [register_result, happly]
  cases name with
  | text key =>
      by_cases hkey : key = ""
      · cases offered <;> simp [Registry.registered?, hkey, eq_comm]
      · cases offered <;> simp [Registry.registered?, hkey, eq_comm]
  | _ => simp [Registry.registered?, eq_comm]

/-- A registration that is refused changes no registry. -/
theorem registry_of_register_error (s : Shelf ρ) {place : Place} {name : Value}
    {offered : Option ρ} {f : Fault}
    (h : (register resolver place name offered s).result = .error f) (other : Place) :
    (register resolver place name offered s).state.registry resolver other =
      s.registry resolver other := by
  obtain ⟨lines, happly⟩ := Registry.register_apply name offered (s.registry resolver place)
  rw [register_result, happly] at h
  rw [registry_register, happly]
  split
  · rename_i heq
    cases hregistered : Registry.registered? name offered with
    | none => rw [heq]
    | some token =>
        rw [hregistered] at h
        cases h
  · rfl

/-- The built-in tokens are registered one after the other, beginning with nothing. -/
theorem extends_builtin (resolver : Token.Builtin → ρ) :
    Registry.Extends Registry.empty (Token.Builtin.all.map fun b => (b.name, resolver b))
      (Registry.builtin resolver) where
  names := Table.keys_ofList _
  resolver name := (Table.get?_ofList _ name).trans Option.or_none.symm

/-- After the commands each registry is what has been registered in it since it was made, on top of
what it was made of. The next command changes its own registry only, and none if it is a
registration that is refused; a registry made with the built-in tokens has just these. -/
structure Independent (resolver : Token.Builtin → ρ) (commands : List (Command ρ))
    (s : Shelf ρ) : Prop where
  shared : Registry.Extends (Registry.builtin resolver) (commands.filterMap (·.registered? .shared))
    (s.registry resolver .shared)
  named : ∀ before name o since, commands = before ++ .make name o :: since →
    (∀ c ∈ since, ¬c.Makes (.named name)) →
      Registry.Extends ((({} : Shelf ρ).after resolver before).origin resolver o)
        (since.filterMap (·.registered? (.named name))) (s.registry resolver (.named name))
  builtin : ∀ name, (perform resolver (.make name .builtin) s).state.registry resolver
    (.named name) = Registry.builtin resolver
  others : ∀ (command : Command ρ) (place : Place), command.changed? ≠ some place →
    (perform resolver command s).state.registry resolver place = s.registry resolver place
  refused_iff : ∀ place name offered f,
    (perform resolver (.register place name offered) s).result = .error f ↔
      (∀ key, name = .text key → key = "") ∧ f = .tokenNameInvalid ∨
        ∃ key, name = .text key ∧ key ≠ "" ∧ offered = none ∧ f = .resolverNotCallable key
  refused : ∀ place name offered f,
    (perform resolver (.register place name offered) s).result = .error f → ∀ other,
      (perform resolver (.register place name offered) s).state.registry resolver other =
        s.registry resolver other

/-- **Registries do not get in each other's way.**  Whatever is done with them, in whatever order,
each one is told by the commands that concern it. -/
theorem independent_after (resolver : Token.Builtin → ρ) (commands : List (Command ρ)) :
    Registry.Extends Registry.empty (Token.Builtin.all.map fun b => (b.name, resolver b))
        (Registry.builtin resolver) ∧
      Independent resolver commands (({} : Shelf ρ).after resolver commands) := by
  refine ⟨extends_builtin resolver, ?_⟩
  exact
    { shared := extends_after {} .shared commands fun c _ hmakes => by cases c <;> cases hmakes
      named := by
        rintro before name o since rfl hmakes
        exact extends_since_made {} before since name o hmakes
      builtin := fun name => by
        rw [perform, Act.modify_apply, registry_make, if_pos rfl]
        rfl
      others := fun command place h => registry_perform_of_ne _ h
      refused_iff := register_eq_error_iff _
      refused := fun place name offered f h => registry_of_register_error _ h }

/-- A copy takes a name over, which keeps its place, and gets a new one; what was copied does not
change. -/
example :
    let s := ({} : Shelf Nat).after (fun _ => 0)
      [.make "a" .empty, .register (.named "a") (.text "x") (some 1),
        .register (.named "a") (.text "y") (some 2), .make "b" (.copyOf (.named "a")),
        .register (.named "b") (.text "x") (some 3), .register (.named "b") (.text "") (some 4),
        .register (.named "b") (.text "z") (some 5)]
    (s.registry (fun _ => 0) (.named "a")).tokens.entries = [("x", 1), ("y", 2)] ∧
      (s.registry (fun _ => 0) (.named "b")).tokens.entries = [("x", 3), ("y", 2), ("z", 5)] := by
  decide +kernel

end Shelf

end RequestLog
