import RequestLog.Proofs.Service.Matching
import RequestLog.Proofs.Service.Paging

/-!
# What a request asks of the store

The query of a request is read field by field, the last of each name. A query is rejected if one of
its numbers is none or out of bounds, or if its order is neither of the two (`Parameters.Rejects`);
all others ask the store for something (`Asks`): a filter with what is named, and nothing else, a
sort order if a field is named, a limit and a skip. The main statement is `read_cases`.
-/

namespace RequestLog.Service

open Text.Percent (last?)

/-- The fields of a query have a parameter that cannot be used. -/
def Rejects (fields : List (String × String)) : Prop :=
  (∃ text, last? "status" fields = some text ∧
    ∀ n, Parameters.integer text ≠ .ok n) ∨
  (∃ text, last? "order" fields = some text ∧ text ≠ "asc" ∧ text ≠ "desc") ∨
  (∃ text, last? "limit" fields = some text ∧
    ∀ n, Parameters.integer text = .ok n → n < 1 ∨ 10000 < n) ∨
  (∃ text, last? "skip" fields = some text ∧
    ∀ n, Parameters.integer text = .ok n → n < 0)

/-- The filter has an entry for each of the method, the status and the url that the fields name, and
no others. A method or url without characters is not named, while a status of zero is. -/
structure FilterFor (fields : List (String × String)) (entries : Fields) : Prop where
  nodup : (entries.map (·.1)).Nodup
  method (v : Value) : ("method", v) ∈ entries ↔
    ∃ text, last? "method" fields = some text ∧ text ≠ "" ∧
      v = .text (Text.upper text)
  status (v : Value) : ("status", v) ∈ entries ↔
    ∃ text n, last? "status" fields = some text ∧
      Parameters.integer text = .ok n ∧ v = .int n
  url (v : Value) : ("url", v) ∈ entries ↔
    ∃ text, last? "url" fields = some text ∧ text ≠ "" ∧ v = .text text
  keys : ∀ e ∈ entries, e.1 = "method" ∨ e.1 = "status" ∨ e.1 = "url"

/-- The query is what the fields ask for: their filter and their sort order, descending unless they
say otherwise, with the limit and the skip that they name, or else the usual limit and no skip. -/
structure Asks (fields : List (String × String)) (usual : Int) (q : Store.Query)
    (limit skip : Int) : Prop where
  filter : ∃ entries, q.filter = .mapping entries ∧ FilterFor fields entries
  sorted (field : String) : last? "sort" fields = some field → field ≠ "" →
    q.sort = .list [.tuple [.text field,
      .int (if last? "order" fields = some "asc" then 1 else -1)]]
  unsorted : (∀ field, last? "sort" fields = some field → field = "") →
    q.sort = .absent
  limit_eq : q.limit = .int limit
  limit_given (text : String) : last? "limit" fields = some text →
    Parameters.integer text = .ok limit ∧ 1 ≤ limit ∧ limit ≤ 10000
  limit_usual : last? "limit" fields = none → limit = usual
  skip_eq : q.skip = .int skip
  skip_given (text : String) : last? "skip" fields = some text →
    Parameters.integer text = .ok skip ∧ 0 ≤ skip
  skip_usual : last? "skip" fields = none → skip = 0

namespace Parameters

variable {fields : List (String × String)} {name : String} {α : Type}
  {read : String → Except Issue α}

/-- A parameter is read if it is missing, or if its text can be read. -/
theorem given_eq_ok_iff {a? : Option α} :
    given fields name read = .ok a? ↔
      (∀ text, last? name fields = some text → ∃ a, read text = .ok a ∧ a? = some a) ∧
        (last? name fields = none → a? = none) := by
  unfold given
  cases last? name fields with
  | none => simp [eq_comm]
  | some text =>
      cases hread : read text with
      | error i => simp [Except.map, hread]
      | ok a => simp [Except.map, hread, eq_comm]

/-- A parameter cannot be read if its text cannot. -/
theorem given_eq_error_iff :
    (∃ i, given fields name read = .error i) ↔
      ∃ text, last? name fields = some text ∧ ∀ a, read text ≠ .ok a := by
  unfold given
  cases last? name fields with
  | none => simp
  | some text => cases hread : read text <;> simp [Except.map, hread]

theorem direction_eq_ok_iff {text : String} {d : Direction} :
    direction text = .ok d ↔
      text = "asc" ∧ d = .ascending ∨ text = "desc" ∧ d = .descending := by
  unfold direction
  split <;> simp_all [eq_comm]

/-- What is rejected is what cannot be read. -/
theorem rejects_iff : Rejects fields ↔
    (∃ i, given fields "status" integer = .error i) ∨
      (∃ i, given fields "order" direction = .error i) ∨
      (∃ i, given fields "limit" (integerWithin (some 1) (some 10000)) = .error i) ∨
      ∃ i, given fields "skip" (integerWithin (some 0) none) = .error i := by
  have hdirection : ∀ text, (∀ d, direction text ≠ .ok d) ↔ text ≠ "asc" ∧ text ≠ "desc" := by
    intro text
    simp only [ne_eq, direction_eq_ok_iff, not_or, not_and]
    constructor
    · intro h
      exact ⟨fun ht => (h .ascending).1 ht rfl, fun ht => (h .descending).2 ht rfl⟩
    · rintro ⟨hasc, hdesc⟩ d
      exact ⟨fun ht => absurd ht hasc, fun ht => absurd ht hdesc⟩
  have hlimit : ∀ text, (∀ n, integerWithin (some 1) (some 10000) text ≠ .ok n) ↔
      ∀ n, integer text = .ok n → n < 1 ∨ 10000 < n := by
    intro text
    simp only [ne_eq, integerWithin_eq_ok_iff, not_and, Option.mem_def, Option.some.injEq,
      forall_eq']
    refine forall_congr' fun n => forall_congr' fun _ => ?_
    omega
  have hskip : ∀ text, (∀ n, integerWithin (some 0) none text ≠ .ok n) ↔
      ∀ n, integer text = .ok n → n < 0 := by
    intro text
    simp only [ne_eq, integerWithin_eq_ok_iff, not_and, Option.mem_def, Option.some.injEq,
      forall_eq']
    refine forall_congr' fun n => forall_congr' fun _ => ?_
    simp
  simp only [given_eq_error_iff, hdirection, hlimit, hskip]
  rfl

theorem mem_filter_iff {p : Parameters} {key : String} {v : Value} :
    (key, v) ∈ p.filter ↔
      (∃ text, p.method = some text ∧ text ≠ "" ∧ key = "method" ∧ v = .text (Text.upper text)) ∨
        (∃ n, p.status = some n ∧ key = "status" ∧ v = .int n) ∨
        ∃ text, p.url = some text ∧ text ≠ "" ∧ key = "url" ∧ v = .text text := by
  simp only [filter, List.mem_append, Option.mem_toList, Option.map_eq_some_iff,
    nonEmpty_eq_some_iff, Prod.mk.injEq, or_assoc, and_assoc]
  simp only [eq_comm]

/-- The filter has an entry for what is named, and no others. -/
theorem filterFor {p : Parameters} (hmethod : p.method = last? "method" fields)
    (hstatus : given fields "status" integer = .ok p.status)
    (hurl : p.url = last? "url" fields) : FilterFor fields p.filter where
  nodup := by
    unfold filter
    cases nonEmpty p.method <;> cases p.status <;> cases nonEmpty p.url <;> simp
  method v := by simp [mem_filter_iff, hmethod]
  status v := by
    obtain ⟨hgiven, hnone⟩ := given_eq_ok_iff.mp hstatus
    simp only [mem_filter_iff, String.reduceEq, false_and, and_false, exists_false,
      true_and, false_or, or_false]
    constructor
    · rintro ⟨n, hn, rfl⟩
      cases htext : last? "status" fields with
      | none =>
          rw [hnone htext] at hn
          cases hn
      | some text =>
          obtain ⟨n', hn', hstatus'⟩ := hgiven text htext
          obtain rfl := Option.some.inj (hn.symm.trans hstatus')
          exact ⟨text, n, rfl, hn', rfl⟩
    · rintro ⟨text, n, htext, hn, rfl⟩
      obtain ⟨n', hn', hstatus'⟩ := hgiven text htext
      obtain rfl := Except.ok.inj (hn.symm.trans hn')
      exact ⟨n, hstatus', rfl⟩
  url v := by simp [mem_filter_iff, hurl]
  keys e he := by
    obtain ⟨key, v⟩ := e
    rcases mem_filter_iff.mp he with ⟨_, -, -, hkey, -⟩ | ⟨_, -, hkey, -⟩ | ⟨_, -, -, hkey, -⟩
    · exact .inl hkey
    · exact .inr (.inl hkey)
    · exact .inr (.inr hkey)

/-- Parameters that were read ask for what the fields name. -/
theorem asks {p : Parameters} {order : Option Direction} {skip : Option Int}
    (hmethod : p.method = last? "method" fields)
    (hstatus : given fields "status" integer = .ok p.status)
    (hurl : p.url = last? "url" fields) (hsort : p.sort = last? "sort" fields)
    (horder : given fields "order" direction = .ok order)
    (hdirection : p.order = order.getD .descending)
    (hlimit : given fields "limit" (integerWithin (some 1) (some 10000)) = .ok p.limit)
    (hskip : given fields "skip" (integerWithin (some 0) none) = .ok skip)
    (hp : p.skip = skip.getD 0) (usual : Int) :
    Asks fields usual (p.query (.int usual)) (p.limit.getD usual) p.skip where
  filter := ⟨p.filter, rfl, filterFor hmethod hstatus hurl⟩
  sorted field hfield hnonempty := by
    have hnamed : nonEmpty p.sort = some field :=
      nonEmpty_eq_some_iff.mpr ⟨hsort.trans hfield, hnonempty⟩
    have hnumber : p.order.number = if last? "order" fields = some "asc" then 1 else -1 := by
      obtain ⟨hgiven, hnone⟩ := given_eq_ok_iff.mp horder
      rw [hdirection]
      cases htext : last? "order" fields with
      | none =>
          rw [hnone htext]
          rfl
      | some text =>
          obtain ⟨d, hd, rfl⟩ := hgiven text htext
          rcases direction_eq_ok_iff.mp hd with ⟨rfl, rfl⟩ | ⟨rfl, rfl⟩ <;> rfl
    show p.sortOrder = _
    rw [sortOrder, hnamed, ← hnumber]
  unsorted hempty := by
    have hnone : nonEmpty p.sort = none := by
      rw [Option.eq_none_iff_forall_ne_some]
      intro field hfield
      obtain ⟨hfield, hnonempty⟩ := nonEmpty_eq_some_iff.mp hfield
      exact hnonempty (hempty field (hsort.symm.trans hfield))
    show p.sortOrder = _
    rw [sortOrder, hnone]
  limit_eq := by
    show (p.limit.map Value.int).getD (.int usual) = _
    cases p.limit <;> rfl
  limit_given text htext := by
    obtain ⟨n, hn, hlimit⟩ := (given_eq_ok_iff.mp hlimit).1 text htext
    obtain ⟨hinteger, hleast, hmost⟩ := integerWithin_eq_ok_iff.mp hn
    rw [hlimit]
    exact ⟨hinteger, hleast 1 rfl, hmost 10000 rfl⟩
  limit_usual hnone := by
    rw [(given_eq_ok_iff.mp hlimit).2 hnone, Option.getD_none]
  skip_eq := rfl
  skip_given text htext := by
    obtain ⟨n, hn, rfl⟩ := (given_eq_ok_iff.mp hskip).1 text htext
    obtain ⟨hinteger, hleast, -⟩ := integerWithin_eq_ok_iff.mp hn
    rw [hp]
    exact ⟨hinteger, hleast 0 rfl⟩
  skip_usual hnone := by
    rw [hp, (given_eq_ok_iff.mp hskip).2 hnone, Option.getD_none]

/-- **Reading a query.**  A query is rejected, with a reason, if it has a parameter that cannot be
used, and otherwise its parameters ask for what it names. -/
theorem read_cases (query : List Char) :
    (Rejects (Text.Percent.fields .kept query) ∧ ∃ found, found ≠ [] ∧
        Parameters.read query = .error found) ∨
      (¬Rejects (Text.Percent.fields .kept query) ∧ ∃ p, Parameters.read query = .ok p ∧
        ∀ usual, Asks (Text.Percent.fields .kept query) usual (p.query (.int usual))
          (p.limit.getD usual) p.skip) := by
  rw [rejects_iff]
  unfold read
  dsimp only
  generalize Text.Percent.fields .kept query = fields
  rcases hstatus : given fields "status" integer with i | status
  · exact .inl ⟨.inl ⟨i, rfl⟩, _, List.cons_ne_nil _ _, rfl⟩
  rcases horder : given fields "order" direction with i | order
  · exact .inl ⟨.inr (.inl ⟨i, rfl⟩), _, List.cons_ne_nil _ _, rfl⟩
  rcases hlimit : given fields "limit" (integerWithin (some 1) (some 10000)) with i | limit
  · exact .inl ⟨.inr (.inr (.inl ⟨i, rfl⟩)), _, List.cons_ne_nil _ _, rfl⟩
  rcases hskip : given fields "skip" (integerWithin (some 0) none) with i | skip
  · exact .inl ⟨.inr (.inr (.inr ⟨i, rfl⟩)), _, List.cons_ne_nil _ _, rfl⟩
  · refine .inr ⟨by simp, _, rfl, fun usual => ?_⟩
    exact asks rfl hstatus rfl rfl horder rfl hlimit hskip rfl usual

end Parameters

end RequestLog.Service
