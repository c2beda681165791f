import RequestLog.Proofs.Build
import RequestLog.Proofs.Logger.Feeding
import RequestLog.Proofs.Twin

/-!
# Documents as they were given

A builder may give named values as a record or as a mapping, and a name may come twice in what they
are made of. Both are the same mapping (`Form.mapping_built`), and loggers whose builders give the
same mappings cannot be told apart but by the line that shows what was built (`twin_serve`). What is
submitted is the mapping that the builder gave, with or without the entries that carry no value, and
it has one that does; this needs what was given to read the same when it is read again
(`Built.IsSteady`). The main statement is `documents_as_given`.
-/

namespace RequestLog

variable {ε Q R σ : Type}

/-! ### Ways of giving named values -/

namespace Built

/-- What the builder gave as a mapping when it is first read, if it can be read as one. -/
def mapping : Built → Except Fault Document
  | .record r => .ok (Document.ofFields r.fields.entries)
  | .value v => documentOf v
  | .object o => o.first.map Document.ofPairs

/-- What the builder gave reads the same the second time. -/
def IsSteady (b : Built) : Prop := ∀ o, b = .object o → o.second = o.first

/-- The document of what reads the same each time is its mapping, with or without the entries that
carry no value. -/
theorem document_eq {b : Built} (hsteady : b.IsSteady) (omitAbsent : Bool) :
    b.document omitAbsent = b.mapping.map (Document.withoutAbsent omitAbsent) := by
  cases b with
  | record r => rfl
  | value v =>
      cases h : documentOf v with
      | error f => simp [document, mapping, h, bind, Except.bind, Except.map]
      | ok d => simp [document, mapping, h, bind, Except.bind, pure, Except.pure, Except.map]
  | object o =>
      have hsecond : o.second = o.first := hsteady o rfl
      cases h : o.first with
      | error f => simp [document, mapping, hsecond, h, bind, Except.bind, Except.map]
      | ok pairs =>
          simp [document, mapping, hsecond, h, bind, Except.bind, pure, Except.pure, Except.map]

/-- A mapping is tested for a value entry by entry. -/
theorem isAbsent_of_mapping {b : Built} {d : Document} (h : b.mapping = .ok d) :
    b.isAbsent = .ok (d.all fun e => e.2.isAbsent) := by
  cases b with
  | record r =>
      obtain rfl := Except.ok.inj h
      rw [isAbsent_record, Document.ofFields, List.all_map]
      rfl
  | value v =>
      have hv : v ≠ .absent := by
        rintro rfl
        cases h
      rw [isAbsent_value hv, show documentOf v = .ok d from h]
      rfl
  | object o =>
      rw [isAbsent_object]
      cases hfirst : o.first with
      | error f => simp [mapping, hfirst, Except.map] at h
      | ok pairs =>
          simp only [mapping, hfirst, Except.map, Except.ok.injEq] at h
          rw [← h]
          rfl

/-- What carries a value is a mapping that has one. -/
theorem Carries.mapping {b : Built} (h : b.Carries) :
    ∃ d, b.mapping = .ok d ∧ ∃ e ∈ d, e.2 ≠ .absent := by
  cases h with
  | record hentry hv => exact ⟨_, rfl, _, List.mem_map_of_mem hentry, hv⟩
  | value hd hentry hv => exact ⟨_, hd, _, hentry, hv⟩
  | object hfirst hentry hv =>
      refine ⟨_, ?_, _, hentry, hv⟩
      rw [Built.mapping, hfirst]
      rfl

/-- The two are tested for a value alike, can be shown or fail to be in the same way, and have the
same document. -/
structure Alike (b b' : Built) : Prop where
  isAbsent : b.isAbsent = b'.isAbsent
  literal : ResultsAlike (fun _ _ => True) b.literal b'.literal
  document (omitAbsent : Bool) : b.document omitAbsent = b'.document omitAbsent

/-- The forms in which a builder may give named values. -/
inductive Form where
  | record
  | mapping

namespace Form

/-- Named values in a form. -/
def built (pairs : Fields) : Form → Built
  | .record => .record (Record.ofList pairs)
  | .mapping => .value (.mapping (Table.ofList pairs).entries)

/-- In either form they are the same mapping. -/
theorem mapping_built (pairs : Fields) (form : Form) :
    (form.built pairs).mapping = .ok (Document.ofFields (Table.ofList pairs).entries) := by
  cases form <;> rfl

theorem isSteady_built (pairs : Fields) (form : Form) : (form.built pairs).IsSteady := by
  cases form <;> exact nofun

/-- A record is shown exactly if the mapping of its fields can be. -/
theorem literal_built (pairs : Fields) (form : Form) :
    ResultsAlike (fun _ _ => True) (form.built pairs).literal
      (Value.mapping (Table.ofList pairs).entries).literal := by
  cases form with
  | record =>
      have hliteral : (Form.record.built pairs).literal = (do
          let shown ← (Value.mapping (Table.ofList pairs).entries).literal
          return "Record(" ++ shown ++ ")") := rfl
      rw [hliteral]
      cases (Value.mapping (Table.ofList pairs).entries).literal with
      | error f => exact .error f
      | ok s => exact .ok trivial
  | mapping => exact .refl (fun _ => trivial) _

/-- In whatever form they are given, the logger finds them alike. -/
theorem alike_built (pairs : Fields) (form form' : Form) :
    (form.built pairs).Alike (form'.built pairs) where
  isAbsent := by
    rw [isAbsent_of_mapping (form.mapping_built pairs),
      isAbsent_of_mapping (form'.mapping_built pairs)]
  literal := by
    have hliteral := form.literal_built pairs
    have hliteral' := form'.literal_built pairs
    generalize (Value.mapping (Table.ofList pairs).entries).literal = shown at hliteral hliteral'
    generalize (form.built pairs).literal = r at hliteral
    generalize (form'.built pairs).literal = r' at hliteral'
    cases hliteral with
    | ok h =>
        cases hliteral'
        exact .ok trivial
    | error f =>
        cases hliteral'
        exact .error f
  document omitAbsent := by
    rw [document_eq (form.isSteady_built pairs), document_eq (form'.isSteady_built pairs),
      mapping_built, mapping_built]

end Form

end Built

/-! ### Builders that give the same -/

/-- The events are the same, or each shows in the log what was built. -/
inductive Event.Resembles : Event Q ε → Event Q ε → Prop
  | same (e : Event Q ε) : Resembles e e
  | shown (literal literal' : String) :
      Resembles (.logged (Logger.shownLine literal)) (.logged (Logger.shownLine literal'))

/-- Events that resemble each other give the sink the same batch, if any. -/
theorem Event.Resembles.batch?_eq {e e' : Event Q ε} (h : e.Resembles e') :
    e.batch? = e'.batch? := by
  cases h <;> rfl

namespace Logger

/-- The logger with another builder. -/
def withBuild (l : Logger σ) (build : Sight → Act LogLine σ Built) : Logger σ :=
  { l with build := build }

variable {l : Logger σ} {build : Sight → Act LogLine σ Built}

/-- What an application does is watched in the same way, whatever the builder. -/
theorem watch_withBuild (w : Surroundings ε Q R σ) (app : App Q R) (r : Response) :
    (l.withBuild build).watch w app r = l.watch w app r := by
  induction app generalizing r with
  | done => rfl
  | fail f => rfl
  | send m next ih =>
      have hforward : (l.withBuild build).forward w r m = l.forward w r m := rfl
      rw [watch, watch, hforward]
      congr 1
      funext x
      exact ih x.2 x.1
  | receive next ih =>
      rw [watch, watch]
      congr 1
      funext outcome
      exact ih outcome r
  | ask q next ih =>
      rw [watch, watch]
      congr 1
      funext outcome
      exact ih outcome r

section Twins

variable (hbuild : ∀ sight, Act.Twin Eq Eq Built.Alike (l.build sight) (build sight))

include hbuild

omit hbuild in
/-- What is found alike is submitted alike. -/
theorem twin_submitRecord {b b' : Built} (hb : b.Alike b') :
    Act.Twin (Event.Resembles : Event Q ε → Event Q ε → Prop) Eq Eq
      (l.submitRecord b) ((l.withBuild build).submitRecord b') := by
  unfold submitRecord
  refine (Act.twin_ofExcept hb.literal).bind fun literal literal' _ => ?_
  refine (Act.twin_note (.shown literal literal')).bind_eq fun _ => ?_
  refine (Act.twin_ofExcept_eq (hb.document l.omitAbsent)).bind_eq fun d => ?_
  exact Act.Twin.refl .same _

/-- What the builders give is the same for the logger. -/
theorem twin_logExchange (request : Request) (response : Response) :
    Act.Twin (Event.Resembles : Event Q ε → Event Q ε → Prop) Eq (fun _ _ => True)
      (l.logExchange request response) ((l.withBuild build).logExchange request response) := by
  have hsame : ∀ {α : Type} (m : Act (Event Q ε) σ α), Act.Twin Event.Resembles Eq Eq m m :=
    Act.Twin.refl .same
  have hbuilt : Act.Twin (Event.Resembles : Event Q ε → Event Q ε → Prop) Eq Built.Alike
      (l.builtRecord request response) ((l.withBuild build).builtRecord request response) :=
    (hsame _).bind_eq fun _ => (hbuild _).mapEvents fun line _ hline => hline ▸ .same _
  unfold logExchange
  refine (hsame (l.isSkipped request response)).bind_eq fun skipped => ?_
  split
  · exact (hsame _).bind_eq fun _ => Act.twin_pure trivial
  · refine hbuilt.bind fun b b' hb => ?_
    refine (Act.twin_ofExcept_eq hb.isAbsent).bind_eq fun isAbsent => ?_
    split
    · exact (hsame _).bind_eq fun _ => Act.twin_pure trivial
    · exact (twin_submitRecord hb).bind_eq fun _ => Act.twin_pure trivial

/-- What fails in logging is the same fault, and is reported in the same way. -/
theorem twin_logRequest (request : Request) (response : Response) :
    Act.Twin (Event.Resembles : Event Q ε → Event Q ε → Prop) Eq (fun _ _ => True)
      (l.logRequest request response) ((l.withBuild build).logRequest request response) := by
  have hsame : ∀ {α : Type} (m : Act (Event Q ε) σ α), Act.Twin Event.Resembles Eq Eq m m :=
    Act.Twin.refl .same
  unfold logRequest
  refine (twin_logExchange hbuild request response).attempt.bind fun r r' hr => ?_
  cases hr with
  | ok h => exact Act.twin_pure trivial
  | error f =>
      refine (hsame (Act.ofExcept f.message)).bind_eq fun wording => ?_
      exact (hsame _).bind_eq fun _ => Act.twin_pure trivial

/-- **Builders that give the same.**  Loggers whose builders give what is tested for a value alike,
is shown or not, and has the same document cannot be told apart but by the line that shows what was
built. -/
theorem twin_serve (w : Surroundings ε Q R σ) (scope : Scope) (app : App Q R) :
    Act.Twin Event.Resembles Eq Eq (l.serve w scope app)
      ((l.withBuild build).serve w scope app) := by
  have hsame : ∀ {α : Type} (m : Act (Event Q ε) σ α), Act.Twin Event.Resembles Eq Eq m m :=
    Act.Twin.refl .same
  unfold serve
  split
  · exact hsame _
  · split
    · exact hsame _
    · refine (hsame _).bind_eq fun request => ?_
      refine (hsame l.readClock).bind_eq fun n => ?_
      have himmediate : (l.withBuild build).immediate = l.immediate := rfl
      dsimp only
      rw [himmediate]
      split
      · refine (hsame (l.markStart {})).bind_eq fun response => ?_
        exact (twin_logRequest hbuild _ response).bind fun _ _ _ => hsame (app.call w)
      · rw [watch_withBuild]
        refine (hsame (l.watch w app {})).bind_eq fun x => ?_
        exact (twin_logRequest hbuild _ x.1).bind fun _ _ _ => hsame _

end Twins

/-- The logger with a builder that gives named values in a form. -/
def giving (l : Logger σ) (values : Sight → Act LogLine σ Fields) (form : Built.Form) : Logger σ :=
  l.withBuild fun sight => do return form.built (← values sight)

/-- In whatever form a builder gives named values, the logger does the same. -/
theorem twin_giving (l : Logger σ) (values : Sight → Act LogLine σ Fields)
    (form form' : Built.Form) (w : Surroundings ε Q R σ) (scope : Scope) (app : App Q R) :
    Act.Twin Event.Resembles Eq Eq ((l.giving values form).serve w scope app)
      ((l.giving values form').serve w scope app) := by
  have hbuild : ∀ sight, Act.Twin Eq Eq Built.Alike
      (do return form.built (← values sight)) (do return form'.built (← values sight)) := by
    intro sight
    exact (Act.Twin.rfl (values sight)).bind_eq fun pairs =>
      Act.twin_pure (form.alike_built pairs form')
  exact twin_serve (l := l.giving values form) hbuild w scope app

end Logger

/-! ### What reaches the sink -/

/-- The document carries a value, and it is what was given: the whole of it, or the entries that
carry a value if the others are left out. -/
structure Document.AsGiven (d : Document) (omitAbsent : Bool) (given : Document) : Prop where
  value : ∃ e ∈ d, e.2 ≠ .absent
  whole : omitAbsent = false → d = given
  present : omitAbsent = true →
    d = given.filter (fun e => !e.2.isAbsent) ∧ d ≠ [] ∧ ∀ e ∈ d, e.2 ≠ .absent

theorem Document.asGiven_withoutAbsent {given : Document} (h : ∃ e ∈ given, e.2 ≠ .absent)
    (omitAbsent : Bool) : (withoutAbsent omitAbsent given).AsGiven omitAbsent given := by
  have hpresent : ∀ e, e ∈ given.filter (fun e => !e.2.isAbsent) ↔
      e ∈ given ∧ e.2 ≠ .absent := by
    intro e
    rw [List.mem_filter, Bool.not_eq_true', Value.isAbsent_eq_false_iff]
  cases omitAbsent with
  | false => exact ⟨h, fun _ => rfl, nofun⟩
  | true =>
      obtain ⟨e, he, hv⟩ := h
      have hmem := (hpresent e).mpr ⟨he, hv⟩
      exact ⟨⟨e, hmem, hv⟩, nofun,
        fun _ => ⟨rfl, List.ne_nil_of_mem hmem, fun e he => ((hpresent e).mp he).2⟩⟩

namespace Logger

variable {l : Logger σ} {w : Surroundings ε Q R σ} {scope : Scope} {app : App Q R} {s : σ}

/-- Whatever the scope, a batch that reaches the sink is the document of the exchange. -/
theorem exists_submits {batch : List Document}
    (h : batch ∈ (l.serve w scope app s).events.filterMap Event.batch?) :
    ∃ request response s₁ d, l.LogsAt w scope app s request response s₁ ∧ batch = [d] ∧
      l.Submits request response s₁ d := by
  cases hkind : scope.kind with
  | none =>
      unfold serve at h
      rw [hkind] at h
      cases h
  | some kind =>
      by_cases hhttp : kind.text? = some "http"
      · obtain rfl : kind = .text "http" := by
          cases kind <;> cases hhttp
          rfl
        cases hr : Request.ofScope scope l.trustProxy with
        | error f =>
            unfold serve at h
            rw [hkind] at h
            simp [Value.text?, hr, Act.bind_apply] at h
        | ok request =>
            obtain ⟨request, response, s₁, hat⟩ := exists_logsAt_of_ok hr w app s
            obtain ⟨d?, f?, hcourse, -⟩ :=
              course_logRequest (ε := ε) (Q := Q) l request response s₁
            rw [← Event.filterMap_filter (fun _ he => Event.batch?_eq_none he),
              hat.filter_isLogging hkind, hcourse.batches] at h
            obtain ⟨d, hd, rfl⟩ := List.mem_map.mp h
            exact ⟨request, response, s₁, d, hat, rfl,
              (hcourse.submits_iff d).mpr (Option.mem_toList.mp hd)⟩
      · rw [serve_other l w hkind hhttp, Event.batches_eq_nil (not_isLogging_call w app s)] at h
        cases h

/-- **Documents as they were given.**  A logger does the same in whatever form its builder gives
named values, but for the line that shows what was built: it gives the sink the same document, with
its keys in the same order, or none. And whatever the builder gives, each batch that reaches the
sink is one document; if what was given reads the same each time, the document is this mapping, or
the entries of it that carry a value, of which there is one. -/
theorem documents_as_given (l : Logger σ) (w : Surroundings ε Q R σ) (scope : Scope)
    (app : App Q R) (s : σ) :
    (∀ (values : Sight → Act LogLine σ Fields) (form form' : Built.Form),
      let served := (l.giving values form).serve w scope app s
      let served' := (l.giving values form').serve w scope app s
      Outcome.Alike Event.Resembles Eq Eq served served' ∧
        served.events.filterMap Event.batch? = served'.events.filterMap Event.batch?) ∧
      ∀ batch ∈ (l.serve w scope app s).events.filterMap Event.batch?,
        ∃ request response s₁ s₂ b d, l.LogsAt w scope app s request response s₁ ∧
          l.admission request response s₁ = some s₂ ∧
          (l.building request response s₂).result = .ok b ∧ batch = [d] ∧
          (b.IsSteady → ∃ given, b.mapping = .ok given ∧ d.AsGiven l.omitAbsent given) := by
  constructor
  · intro values form form' served served'
    have halike := twin_giving l values form form' w scope app s s rfl
    exact ⟨halike, filterMap_eq_of_alike (fun _ _ he => he.batch?_eq) halike.events⟩
  · intro batch hbatch
    obtain ⟨request, response, s₁, d, hat, rfl, s₂, b, hadmitted, hb, hcarries, -, hd⟩ :=
      exists_submits hbatch
    refine ⟨request, response, s₁, s₂, b, d, hat, hadmitted, hb, rfl, fun hsteady => ?_⟩
    obtain ⟨given, hgiven, hvalue⟩ := hcarries.mapping
    rw [Built.document_eq hsteady, hgiven] at hd
    obtain rfl := Except.ok.inj hd
    exact ⟨given, hgiven, Document.asGiven_withoutAbsent hvalue l.omitAbsent⟩

/-- What can be gone through once carries a value when it is tested and has none left when it is
submitted. And a list that is no mapping is submitted as one: each text of two characters is a name
and a value. -/
theorem spent_and_unmapped_submitted :
    let spent : Logger Nat :=
      { ofStatus with build := fun _ => return .once [.tuple [.text "a", .int 1]] }
    let listed : Logger Nat :=
      { ofStatus with build := fun _ => return .value (.list [.text "ab"]) }
    let served := spent.serve (.refusing 3) (.ofPath "/logs") .startingTwice 0
    let served' := listed.serve (.refusing 3) (.ofPath "/logs") .startingTwice 0
    served.events.filterMap Event.batch? = [[[]]] ∧
      served'.events.filterMap Event.batch? = [[[(.text "a", .text "b")]]] :=
  ⟨rfl, rfl⟩

end Logger

/-- A name that comes twice and values that only look empty. -/
example (form : Built.Form) :
    (form.built [("a", .text "x"), ("b", .int 0), ("c", .text ""), ("a", .absent)]).document true =
      .ok [(.text "b", .int 0), (.text "c", .text "")] := by
  cases form <;> rfl

end RequestLog
