import RequestLog.LoggerOptions
import RequestLog.Proofs.Act

/-!
# Plans of loggers

A plan is made of options and settings and one lookup in the catalog (`plan_apply`). Beside what the
lookup writes to the log, which is for debugging only (`notes_lookup`), it notices an incomplete
target of a sink that is to be made, and nothing else.
-/

namespace RequestLog

variable {β σ : Type}

/-- A lookup writes to the log at the level of debugging only. -/
theorem Catalog.notes_lookup (spec : Format.Spec β) :
    (Catalog.lookup spec : Act LogLine (Catalog β) (Selected β)).Notes (·.level = .debug) := by
  have htext : ∀ source,
      (Catalog.compileText source : Act LogLine (Catalog β) Compiled).Notes (·.level = .debug) := by
    intro source
    unfold compileText
    refine Act.notes_get.bind fun catalog => ?_
    cases catalog.compiled.get? source with
    | some c => exact Act.notes_pure c
    | none =>
        refine (Act.notes_ofExcept _).bind fun template => (Act.notes_modify _).bind fun _ => ?_
        refine Act.Notes.bind (Act.notes_note ?_) fun _ => Act.notes_pure _
        rfl
  have hcompile : ∀ v : Value,
      (Catalog.compile v : Act LogLine (Catalog β) Compiled).Notes (·.level = .debug) := by
    intro v
    unfold compile
    split
    · exact htext _
    · split
      · exact Act.notes_fail _
      · exact Act.notes_fail _
  have hselected : ∀ (wanted : Option String) (serve : Format.Spec β → Act LogLine (Catalog β) _),
      (∀ b, (serve (.builder b)).Notes (·.level = .debug)) →
      (∀ v, (serve (.value v)).Notes (·.level = .debug)) →
      (do serve (← Act.ofExcept ((← Act.get).select wanted)) :
        Act LogLine (Catalog β) (Selected β)).Notes (·.level = .debug) := by
    intro wanted serve hbuilder hvalue
    refine Act.notes_get.bind fun catalog => (Act.notes_ofExcept _).bind fun selected => ?_
    cases selected with
    | builder b => exact hbuilder b
    | value v => exact hvalue v
  have hcompiled : ∀ v : Value, (do return .compiled (← Catalog.compile v) :
      Act LogLine (Catalog β) (Selected β)).Notes (·.level = .debug) := fun v =>
    (hcompile v).bind fun _ => Act.notes_pure _
  unfold lookup
  split
  · exact Act.notes_pure _
  · split
    · exact (Act.notes_pure _).bind fun wanted =>
        hselected wanted _ (fun _ => Act.notes_pure _) hcompiled
    · exact (Act.notes_pure _).bind fun wanted =>
        hselected wanted _ (fun _ => Act.notes_pure _) hcompiled
    · exact (Act.notes_fail _).bind fun wanted =>
        hselected wanted _ (fun _ => Act.notes_pure _) hcompiled

namespace LoggerOptions

/-- What is noticed of a target: nothing if it is complete. -/
def notices (t : Store.Target) : List Notice :=
  if t.isComplete then []
  else [.warning incompleteText, .logged ⟨.warning, .requests, incompleteText⟩]

theorem checkTarget_apply (t : Store.Target) (s : σ) :
    checkTarget t s = ⟨notices t, .ok (), s⟩ := by
  unfold checkTarget notices
  cases t.isComplete <;> rfl

/-- A plan with a selected format. -/
def planWith (o : LoggerOptions β) (s : Settings) (hasSink : Bool) (selected : Selected β) :
    LoggerPlan β :=
  { target := if hasSink then none else some (o.targetFor s)
    immediate := if o.immediate.isAbsent then s.immediate else o.immediate
    queryLimit := s.queryLimit
    selected := selected }

/-- A plan comes to what the lookup of its format comes to. -/
theorem plan_apply (o : LoggerOptions β) (s : Settings) (hasSink : Bool) (c : Catalog β) :
    o.plan s hasSink c =
      let looked := Catalog.lookup (o.formatFor s) c
      ⟨(if hasSink then [] else notices (o.targetFor s)) ++ looked.events.map .logged,
        looked.result.map (o.planWith s hasSink), looked.state⟩ := by
  unfold plan
  cases hresult : (Catalog.lookup (o.formatFor s) c).result <;> cases hasSink <;>
    simp [Act.bind_apply, checkTarget_apply, Outcome.after, hresult, planWith, Except.map]

end LoggerOptions

end RequestLog
