import RequestLog.Format.Builder
import RequestLog.Proofs.Act
import RequestLog.Proofs.Scope
import RequestLog.Proofs.Table
import RequestLog.Proofs.Wording

/-!
# Records by the built-in tokens

With the built-in tokens a compiled template always comes to a record, of which every entry is
known (`Template.build_ok`): what the placeholder shows of the exchange, or no value where its token
fails or is none of them. For this the exchange has to be plain, as it is for a request that a
server presents and a status that is a number (`Sight.IsPlain`), so that a record keeps the values
as they are, and all of them but the status can always be written
(`Token.Builtin.isPlain_or_status_of_evaluate`). A token that fails does so with a fault that has a
wording (`Token.Builtin.failsInWords_evaluate`).
-/

namespace RequestLog

variable {σ : Type}

/-- The references of a template have distinct keys. -/
theorem Template.nodup_keys_distinct (ps : List Placeholder) :
    ((distinct ps).map Placeholder.key).Nodup := by
  induction ps with
  | nil => exact List.nodup_nil
  | cons p rest ih =>
      rw [distinct, List.map_cons, List.nodup_cons]
      constructor
      · intro hmem
        obtain ⟨q, hq, hkey⟩ := List.mem_map.mp hmem
        simp [hkey] at hq
      · exact ih.sublist (List.filter_sublist.map _)

/-! ### What tokens give -/

/-- Where two steps come to a value, so does the first of them. -/
theorem ok_of_bind {α β : Type} {x : Except Fault α} {k : α → Except Fault β} {b : β}
    (h : (x >>= k) = .ok b) : ∃ a, x = .ok a ∧ k a = .ok b := by
  cases x with
  | error f => cases h
  | ok a => exact ⟨a, rfl, h⟩

/-- What tokens read of the exchange are values that a record keeps as they are. Those that they
read of the request can be written. -/
structure Sight.IsPlain (sight : Sight) : Prop where
  request : sight.request.IsPlain
  status : sight.response.statusCode.isSimple

/-- The time of a response in so many decimal places is a fraction or absent. -/
theorem Timing.isPlain_responseTime {request : Request} {response : Response} {n : Int} {v : Value}
    (h : responseTime request response (.int n) = .ok v) : v.IsPlain := by
  unfold responseTime at h
  split at h
  · obtain ⟨x, -, hround⟩ := ok_of_bind h
    obtain ⟨m, -, hplaces⟩ := ok_of_bind hround
    split at hplaces
    · cases hplaces
      exact ⟨rfl, _, rfl⟩
    · cases hplaces
  · cases h
    exact Value.isPlain_absent

namespace Token.Builtin

/-- The decimal places that are asked for are an integer. -/
theorem int_of_placesOf {argument : Option String} {v : Value} (h : placesOf argument = .ok v) :
    ∃ n, v = .int n := by
  unfold placesOf at h
  split at h
  · exact ⟨3, (Except.ok.inj h).symm⟩
  · split at h
    · exact ⟨_, (Except.ok.inj h).symm⟩
    · cases h
    · cases h

/-- Joined headers are a text or absent. -/
theorem isPlain_joined {headers : Headers} {field : Option String} {v : Value}
    (h : joined headers field = .ok v) : v.IsPlain := by
  unfold joined at h
  split at h
  · cases h
    exact Value.isPlain_absent
  · cases h
    exact Value.isPlain_absent
  · obtain ⟨values, -, hvalues⟩ := ok_of_bind h
    split at hvalues
    · cases hvalues
      exact Value.isPlain_absent
    · cases hvalues
      exact Value.isPlain_text _

/-- A version is a text or absent. -/
theorem isPlain_versionOf {version v : Value} (h : versionOf version = .ok v) : v.IsPlain := by
  unfold versionOf at h
  split at h
  · dsimp only at h
    split at h
    · cases h
      exact ⟨rfl, _, rfl⟩
    · cases h
  · cases h
  · cases h
  · cases h

/-- What a built-in token gives is a plain value, or it is taken from the exchange: an address, the
method, or the status once the headers have been sent. -/
theorem origin_of_evaluate {sight : Sight} {b : Builtin} {argument : Option String} {v : Value}
    (h : b.evaluate sight argument = .ok v) :
    v.IsPlain ∨ v = sight.request.fullUrl.orElse sight.request.url ∨ v = sight.request.method ∨
      v = sight.request.clientAddress ∨
      (sight.response.headersSent.truth ∧ v = sight.response.statusCode) := by
  cases b with
  | url => exact .inr (.inl (Except.ok.inj h).symm)
  | method => exact .inr (.inr (.inl (Except.ok.inj h).symm))
  | remoteAddress => exact .inr (.inr (.inr (.inl (Except.ok.inj h).symm)))
  | status =>
      cases h
      split
      · next hsent => exact .inr (.inr (.inr (.inr ⟨hsent, rfl⟩)))
      · exact .inl Value.isPlain_absent
  | responseTime =>
      obtain ⟨digits, hdigits, htime⟩ := ok_of_bind h
      obtain ⟨n, rfl⟩ := int_of_placesOf hdigits
      exact .inl (Timing.isPlain_responseTime htime)
  | date =>
      cases h
      exact .inl ⟨rfl, _, rfl⟩
  | referrer =>
      obtain ⟨first, -, hfirst⟩ := ok_of_bind h
      dsimp only at hfirst
      split at hfirst
      · cases hfirst
        exact .inl (Value.isPlain_ofText? _)
      · obtain ⟨second, -, hsecond⟩ := ok_of_bind hfirst
        cases hsecond
        exact .inl (Value.isPlain_ofText? _)
  | remoteUser =>
      obtain ⟨header, -, hheader⟩ := ok_of_bind h
      cases hheader
      unfold userOf
      split
      · exact .inl (Value.isPlain_text _)
      · exact .inl Value.isPlain_absent
  | httpVersion => exact .inl (isPlain_versionOf h)
  | userAgent =>
      obtain ⟨header, -, hheader⟩ := ok_of_bind h
      cases hheader
      exact .inl (Value.isPlain_ofText? _)
  | requestHeader => exact .inl (isPlain_joined h)
  | responseHeader =>
      change (if sight.response.headersSent.truth then joined sight.response.headers argument
        else .ok .absent) = .ok v at h
      split at h
      · exact .inl (isPlain_joined h)
      · cases h
        exact .inl Value.isPlain_absent

/-- On a plain exchange a built-in token gives a plain value, or the status. -/
theorem isPlain_or_status_of_evaluate {sight : Sight} (hsight : sight.IsPlain) {b : Builtin}
    {argument : Option String} {v : Value} (h : b.evaluate sight argument = .ok v) :
    v.IsPlain ∨ v = sight.response.statusCode := by
  have hrequest := hsight.request
  rcases origin_of_evaluate h with hplain | rfl | rfl | rfl | ⟨-, rfl⟩
  · exact .inl hplain
  · obtain ⟨url, hurl⟩ := hrequest.url
    obtain ⟨fullUrl, hfullUrl⟩ := hrequest.fullUrl
    rw [hurl, hfullUrl]
    exact .inl ((Value.isPlain_text _).orElse (Value.isPlain_text _))
  · obtain ⟨method, hmethod⟩ := hrequest.method
    rw [hmethod]
    exact .inl (Value.isPlain_text method)
  · exact .inl hrequest.clientAddress
  · exact .inr rfl

/-- On a plain exchange a built-in token gives a value that a record keeps as it is. -/
theorem isSimple_of_evaluate {sight : Sight} (hsight : sight.IsPlain) {b : Builtin}
    {argument : Option String} {v : Value} (h : b.evaluate sight argument = .ok v) :
    v.isSimple := by
  rcases isPlain_or_status_of_evaluate hsight h with hplain | rfl
  · exact hplain.isSimple
  · exact hsight.status

end Token.Builtin

/-! ### How tokens fail -/

/-- The time of a response fails with a fault that has a wording. -/
theorem Timing.failsInWords_responseTime (request : Request) (response : Response)
    (digits : Value) : FailsInWords (responseTime request response digits) := by
  have hplaces : FailsInWords (places digits) := by
    cases digits with
    | int | bool => exact failsInWords_ok _
    | _ => exact failsInWords_error ⟨_, rfl⟩
  have hround (x : Binary64) : FailsInWords (round x digits) := by
    unfold round
    split
    · exact failsInWords_ok _
    · refine hplaces.bind fun n => ?_
      split
      · exact failsInWords_ok _
      · exact failsInWords_error ⟨_, rfl⟩
  unfold responseTime
  split
  · refine FailsInWords.bind ?_ hround
    unfold elapsed
    split
    · exact failsInWords_error ⟨_, rfl⟩
    · exact failsInWords_ok _
  · exact failsInWords_ok _

/-- A header that cannot be looked up has a name without bytes. -/
theorem Headers.failsInWords_getAll (headers : Headers) (name : String) :
    FailsInWords (headers.getAll name) := by
  refine FailsInWords.map ?_ _
  unfold lookupKey
  split
  · exact failsInWords_ok _
  · exact failsInWords_error ⟨_, rfl⟩

/-- A header that cannot be looked up fails with a fault that has a wording. -/
theorem Headers.failsInWords_get? (headers : Headers) (name : String) :
    FailsInWords (headers.get? name) :=
  (headers.failsInWords_getAll name).map _

namespace Token.Builtin

/-- Decimal places that are no integer fail with a fault that has a wording. -/
theorem failsInWords_placesOf (argument : Option String) : FailsInWords (placesOf argument) := by
  unfold placesOf
  split
  · exact failsInWords_ok _
  · split
    · exact failsInWords_ok _
    · exact failsInWords_error ⟨_, rfl⟩
    · exact failsInWords_error ⟨_, rfl⟩

/-- Headers that cannot be joined fail with a fault that has a wording. -/
theorem failsInWords_joined (headers : Headers) (field : Option String) :
    FailsInWords (joined headers field) := by
  unfold joined
  split
  · exact failsInWords_ok _
  · exact failsInWords_ok _
  · refine (headers.failsInWords_getAll _).bind fun values => ?_
    split <;> exact failsInWords_ok _

/-- What is no version fails with a fault that has a wording. -/
theorem failsInWords_versionOf (version : Value) : FailsInWords (versionOf version) := by
  unfold versionOf
  split
  · dsimp only
    split
    · exact failsInWords_ok _
    · exact failsInWords_error ⟨_, rfl⟩
  · exact failsInWords_error ⟨_, rfl⟩
  · exact failsInWords_error ⟨_, rfl⟩
  · exact failsInWords_error ⟨_, rfl⟩

/-- A built-in token that fails does so with a fault that has a wording. -/
theorem failsInWords_evaluate (b : Builtin) (sight : Sight) (argument : Option String) :
    FailsInWords (b.evaluate sight argument) := by
  have hheader (name : String) : FailsInWords (sight.request.headers.get? name) :=
    sight.request.headers.failsInWords_get? name
  cases b with
  | url | method | date | status | remoteAddress => exact failsInWords_ok _
  | responseTime =>
      exact (failsInWords_placesOf argument).bind fun _ => Timing.failsInWords_responseTime _ _ _
  | referrer =>
      refine (hheader _).bind fun first => ?_
      dsimp only
      split
      · exact failsInWords_ok _
      · exact (hheader _).bind fun second => failsInWords_ok _
  | remoteUser | userAgent => exact (hheader _).bind fun _ => failsInWords_ok _
  | httpVersion => exact failsInWords_versionOf _
  | requestHeader => exact failsInWords_joined _ _
  | responseHeader =>
      rw [evaluate]
      split
      · exact failsInWords_joined _ _
      · exact failsInWords_ok _

end Token.Builtin

/-! ### What templates build -/

/-- What a placeholder shows of an exchange by the built-in tokens: no value if its token fails or
is none of them. -/
def Placeholder.shown (p : Placeholder) (sight : Sight) : Value :=
  match Token.Builtin.all.find? fun b => p.name == b.name with
  | none => .absent
  | some b =>
    match b.evaluate sight p.argument with
    | .ok v => v
    | .error _ => .absent

/-- A built-in token is found under its own name. -/
theorem Registry.get?_builtin {ρ : Type} (resolver : Token.Builtin → ρ) (name : String) :
    (Registry.builtin resolver).tokens.get? name =
      (Token.Builtin.all.find? fun b => name == b.name).map resolver := by
  have hnodup : ((Token.Builtin.all.map fun b => (b.name, resolver b)).map (·.1)).Nodup := by
    rw [List.map_map]
    show (Token.Builtin.all.map Token.Builtin.name).Nodup
    decide
  have hlookup : ∀ bs : List Token.Builtin,
      (bs.map fun b => (b.name, resolver b)).lookup name =
        (bs.find? fun b => name == b.name).map resolver := by
    intro bs
    induction bs with
    | nil => rfl
    | cons b rest ih =>
        rw [List.map_cons, List.lookup_cons, List.find?_cons]
        cases name == b.name with
        | true => rfl
        | false => exact ih
  unfold builtin Table.get?
  rw [Table.entries_ofList hnodup]
  exact hlookup _

/-- A built-in token is registered under its own name. -/
theorem Registry.get?_builtin_name {ρ : Type} (resolver : Token.Builtin → ρ) (b : Token.Builtin) :
    (Registry.builtin resolver).tokens.get? b.name = some (resolver b) := by
  rw [get?_builtin]
  cases b <;> rfl

/-- A value that a record keeps as it is is not changed for it. -/
theorem Value.simplify_of_isSimple {v : Value} (h : v.isSimple) : v.simplify = .ok v := by
  cases v with
  | bytes b => cases h
  | buffer b => cases h
  | _ => simp_all [simplify, isSimple]

variable {sight : Sight}

/-- What a placeholder shows of a plain exchange is kept by a record as it is. -/
theorem Placeholder.isSimple_shown (hsight : sight.IsPlain) (p : Placeholder) :
    (p.shown sight).isSimple := by
  unfold shown
  split
  · rfl
  · split
    · next h => exact Token.Builtin.isSimple_of_evaluate hsight h
    · rfl

/-- What a placeholder shows of a plain exchange can be written if the status can. -/
theorem Placeholder.isWritable_shown (hsight : sight.IsPlain)
    (hstatus : sight.response.statusCode.IsWritable) (p : Placeholder) :
    (p.shown sight).IsWritable := by
  unfold shown
  split
  · exact Value.isPlain_absent.isWritable
  · split
    · next h =>
        rcases Token.Builtin.isPlain_or_status_of_evaluate hsight h with hplain | rfl
        · exact hplain.isWritable
        · exact hstatus
    · exact Value.isPlain_absent.isWritable

/-- On a plain exchange every placeholder comes to what it shows, and no state changes. -/
theorem Registry.resolve_builtin (hsight : sight.IsPlain) (p : Placeholder) (s : σ) :
    ∃ lines, (Registry.builtin Registry.plain).resolve p.name sight p.argument s =
      ⟨lines, .ok (p.shown sight), s⟩ := by
  unfold resolve Placeholder.shown
  rw [get?_builtin]
  cases Token.Builtin.all.find? fun b => p.name == b.name with
  | none => exact ⟨[], rfl⟩
  | some b =>
      dsimp only [Option.map_some]
      rw [Act.bind_of_ok (Act.attempt_apply _ s)]
      cases h : b.evaluate sight p.argument with
      | error f =>
          obtain ⟨wording, hwording⟩ := b.failsInWords_evaluate sight p.argument f h
          simp only [Act.ask_apply, plain, h, hwording]
          exact ⟨_, rfl⟩
      | ok v =>
          simp only [Act.ask_apply, plain, h,
            Value.simplify_of_isSimple (Token.Builtin.isSimple_of_evaluate hsight h)]
          exact ⟨_, rfl⟩

namespace Template

/-- The placeholders of a template come to what they show, each under its key. -/
theorem fieldValues_ok (hsight : sight.IsPlain) (ps : List Placeholder) (s : σ) :
    ∃ lines, fieldValues (Registry.builtin Registry.plain) sight ps s =
      ⟨lines, .ok (ps.map fun p => (p.key, p.shown sight)), s⟩ := by
  induction ps with
  | nil => exact ⟨[], rfl⟩
  | cons p rest ih =>
      obtain ⟨lines, hp⟩ := Registry.resolve_builtin hsight p s
      obtain ⟨lines', hrest⟩ := ih
      rw [fieldValues, Act.bind_of_ok hp, Act.bind_of_ok hrest]
      exact ⟨_, rfl⟩

/-- A text that has characters is compiled to its references. -/
theorem compile_eq_ok_iff {source : String} {t : Template} :
    compile source = .ok t ↔ source ≠ "" ∧ t = ⟨source, references source⟩ := by
  unfold compile
  split
  · rename_i hempty
    simp only [String.isEmpty_iff] at hempty
    simp [hempty]
  · rename_i hempty
    simp only [String.isEmpty_iff] at hempty
    rw [Except.ok.injEq, eq_comm]
    exact (and_iff_right hempty).symm

/-- **Records by the built-in tokens.**  On a plain exchange a compiled template comes to a record
with one entry for each placeholder, in order, and with what the placeholder shows. The record can
be written if the status can. -/
theorem build_ok (hsight : sight.IsPlain) {source : String} {t : Template}
    (ht : compile source = .ok t) (s : σ) :
    ∃ lines r, t.build (Registry.builtin Registry.plain) sight s = ⟨lines, .ok r, s⟩ ∧
      r.fields.entries = (t.fields.map fun p => (p.key, p.shown sight)) ∧
      (sight.response.statusCode.IsWritable → ∃ literal, r.literal = .ok literal) := by
  obtain ⟨lines, hvalues⟩ := fieldValues_ok hsight t.fields s
  have hentries : (Record.ofList (t.fields.map fun p => (p.key, p.shown sight))).fields.entries =
      t.fields.map fun p => (p.key, p.shown sight) := by
    obtain ⟨-, rfl⟩ := compile_eq_ok_iff.mp ht
    refine Table.entries_ofList ?_
    rw [List.map_map]
    exact nodup_keys_distinct _
  refine ⟨_, _, Act.bind_of_ok hvalues, hentries, fun hstatus => Record.literal_ok_iff.mpr ?_⟩
  rw [hentries]
  intro e he
  obtain ⟨p, -, rfl⟩ := List.mem_map.mp he
  exact p.isWritable_shown hsight hstatus

end Template

end RequestLog
