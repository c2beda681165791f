import RequestLog.Proofs.Forwarding
import RequestLog.Proofs.Text.Latin
import RequestLog.Proofs.Token.Resolution

/-!
# Tokens that show headers

Two tokens show the headers of a name, which is given in any letter case: one those of the request,
the other those of a response that has been sent. They show the values of all entries of that name
in their order, while the token for the referring page takes the first value of one name or of
another. The main statement is `resolve_header`.
-/

namespace RequestLog

namespace Text

/-! ### Letter case -/

/-- Every character has a lower-case form. -/
theorem lowerChar_ne_nil (c : Char) : lowerChar c ≠ [] := by
  have hexpansions : ∀ e ∈ lowerExpansions, e.2 ≠ [] := by decide
  unfold lowerChar mapChar
  split
  · exact List.cons_ne_nil _ _
  · split
    · rename_i codes hcodes
      obtain ⟨before, behind, hsplit, -⟩ := List.lookup_eq_some_iff.mp hcodes
      rw [ne_eq, List.map_eq_nil_iff]
      exact hexpansions (c.toNat, codes) (by simp [hsplit])
    · exact List.cons_ne_nil _ _

/-- Only the empty text is empty in lower case. -/
theorem lower_eq_empty_iff {s : String} : lower s = "" ↔ s = "" := by
  have hafter (cs : List Char) : lowerAfter [] cs = [] ↔ cs = [] := by
    cases cs with
    | nil => exact ⟨fun _ => rfl, fun _ => rfl⟩
    | cons c rest =>
        rw [lowerAfter]
        split <;> simp [lowerChar_ne_nil]
  rw [lower, ← String.toList_inj, String.toList_ofList, String.toList_empty, hafter,
    ← String.toList_inj, String.toList_empty]

end Text

namespace Headers

variable {h : Headers} {name : String}

/-- The values of the entries of a name, in their order. -/
def named (h : Headers) (name : String) : List String :=
  (h.entries.filter fun e => Text.Latin.decode e.1 = name).map fun e => Text.Latin.decode e.2

/-- The entries under the bytes of a name are those of the name. -/
theorem valuesAt_eq_named {key : Bytes} (hkey : Text.Latin.encode name = .ok key) :
    h.valuesAt key = h.named name := by
  have hentry (e : Bytes × Bytes) :
      (e.1 == key) = decide (Text.Latin.decode e.1 = name) := by
    rw [← Text.Latin.encode_eq_ok_iff.mp hkey, Bool.eq_iff_iff, beq_iff_eq, decide_eq_true_iff,
      Text.Latin.decode_inj]
  simp only [valuesAt, named, hentry]

/-- There are no entries of a name that no bytes are read as. -/
theorem named_of_not_isLatin (hname : ¬Text.Latin.IsLatin name) : h.named name = [] := by
  rw [named, List.map_eq_nil_iff, List.filter_eq_nil_iff]
  intro e _ he
  exact hname (of_decide_eq_true he ▸ Text.Latin.isLatin_decode e.1)

/-- A name that bytes can spell is looked up among the headers by their names in lower case. -/
theorem getAll_of_isLatin (hname : Text.Latin.IsLatin (Text.lower name)) :
    h.getAll name = .ok (h.named (Text.lower name)) := by
  have hkey := Text.Latin.encode_of_isLatin hname
  rw [getAll, lookupKey, hkey, ← valuesAt_eq_named hkey]
  rfl

/-- A name in lower case is looked up as it is. -/
theorem get?_of_lower (hlower : Text.lower name = name) (hlatin : Text.Latin.IsLatin name) :
    h.get? name = .ok (h.named name).head? := by
  have hall : h.getAll name = .ok (h.named (Text.lower name)) :=
    getAll_of_isLatin (hlower.symm ▸ hlatin)
  rw [get?, hall, hlower]
  rfl

/-- A name that no bytes spell cannot be looked up. -/
theorem getAll_of_error {u : Text.Latin.Unencodable}
    (hname : Text.Latin.encode (Text.lower name) = .error u) :
    h.getAll name = .error (.headerUnencodable u) := by
  rw [getAll, lookupKey, hname]
  rfl

end Headers

/-- A built-in token calls its own resolver. -/
theorem Registry.resolution_builtin {σ : Type} (b : Token.Builtin) (sight : Sight)
    (argument : Option String) (s : σ) :
    (Registry.builtin Registry.plain).resolution b.name sight argument s =
      (.called (b.evaluate sight argument), s) := by
  rw [resolution, get?_builtin_name]
  rfl

namespace Token.Builtin

/-- The token shows these headers of an exchange: those of the request, or those of the response
once they have been sent. -/
inductive LooksAt (sight : Sight) : Builtin → Headers → Prop
  | request : LooksAt sight .requestHeader sight.request.headers
  | response (h : sight.response.headersSent.truth) :
      LooksAt sight .responseHeader sight.response.headers

section Joined

variable {headers : Headers}

/-- The value for the values of a header. -/
def ofValues : List String → Value
  | [] => .absent
  | values => .text (", ".intercalate values)

/-- The values under a name that bytes can spell are joined. -/
theorem joined_of_isLatin {name : String} (hname : name ≠ "")
    (hlatin : Text.Latin.IsLatin (Text.lower name)) :
    joined headers (some name) = .ok (ofValues (headers.named (Text.lower name))) := by
  rw [joined]
  · rw [Headers.getAll_of_isLatin hlatin]
    cases headers.named (Text.lower name) <;> rfl
  · exact hname

/-- Under a name that no bytes spell nothing is joined. -/
theorem joined_of_error {name : String} {u : Text.Latin.Unencodable} (hname : name ≠ "")
    (hu : Text.Latin.encode (Text.lower name) = .error u) :
    joined headers (some name) = .error (.headerUnencodable u) := by
  rw [joined]
  · rw [Headers.getAll_of_error hu]
    rfl
  · exact hname

/-- A field comes to nothing because it is missing or empty, or its name has bytes and comes to its
values, or its name has none. -/
theorem joined_cases (headers : Headers) (field : Option String) :
    ((field = none ∨ field = some "") ∧ joined headers field = .ok .absent) ∨
    (∃ name, field = some name ∧ name ≠ "" ∧ Text.Latin.IsLatin (Text.lower name) ∧
      joined headers field = .ok (ofValues (headers.named (Text.lower name)))) ∨
    ∃ name u, field = some name ∧ name ≠ "" ∧ ¬Text.Latin.IsLatin (Text.lower name) ∧
      Text.Latin.encode (Text.lower name) = .error u ∧
        joined headers field = .error (.headerUnencodable u) := by
  cases field with
  | none => exact .inl ⟨.inl rfl, rfl⟩
  | some name =>
      by_cases hname : name = ""
      · subst hname
        exact .inl ⟨.inr rfl, rfl⟩
      · by_cases hlatin : Text.Latin.IsLatin (Text.lower name)
        · exact .inr (.inl ⟨name, rfl, hname, hlatin, joined_of_isLatin hname hlatin⟩)
        · obtain ⟨u, hu⟩ := Text.Latin.encode_eq_error_iff.mpr hlatin
          exact .inr (.inr ⟨name, u, rfl, hname, hlatin, hu, joined_of_error hname hu⟩)

/-- Only the lower case of the name and the entries of that name matter. -/
theorem joined_congr {headers' : Headers} {field field' : Option String}
    (hfield : field'.map Text.lower = field.map Text.lower)
    (hnamed : ∀ name ∈ field, headers'.named (Text.lower name) = headers.named (Text.lower name)) :
    joined headers' field' = joined headers field := by
  cases field with
  | none =>
      obtain rfl : field' = none := Option.map_eq_none_iff.mp hfield
      rfl
  | some name =>
      obtain ⟨name', rfl, hlower⟩ := Option.map_eq_some_iff.mp hfield
      have hempty : name' = "" ↔ name = "" := by
        rw [← Text.lower_eq_empty_iff, hlower, Text.lower_eq_empty_iff]
      by_cases hname : name = ""
      · rw [hempty.mpr hname, hname]
        rfl
      · have hname' : name' ≠ "" := fun h => hname (hempty.mp h)
        by_cases hlatin : Text.Latin.IsLatin (Text.lower name)
        · rw [joined_of_isLatin hname hlatin, joined_of_isLatin hname' (hlower ▸ hlatin), hlower,
            hnamed name rfl]
        · obtain ⟨u, hu⟩ := Text.Latin.encode_eq_error_iff.mpr hlatin
          rw [joined_of_error hname hu, joined_of_error hname' (hlower ▸ hu)]

end Joined

/-- What a token that shows headers comes to for a field. -/
structure ShowsField {σ : Type} (headers : Headers) (field : Option String) (token : String)
    (o : Outcome LogLine σ Value) : Prop where
  /-- The values of all entries of the lower-case name are shown in their order, also if they are
  empty. -/
  values : ∀ name, field = some name → name ≠ "" → headers.named (Text.lower name) ≠ [] →
    o.result = .ok (.text (", ".intercalate (headers.named (Text.lower name))))
  /-- Nothing is shown exactly if there is no name, no such entry, or a name that no bytes are read
  as. -/
  absent : o.result = .ok .absent ↔ field = none ∨ field = some "" ∨ ∃ name, field = some name ∧
    (headers.named (Text.lower name) = [] ∨ ¬Text.Latin.IsLatin (Text.lower name))
  /-- A name that no bytes are read as is noticed with one warning. -/
  warned : ∀ name, field = some name → ¬Text.Latin.IsLatin (Text.lower name) →
    ∃ u wording, Text.Latin.encode (Text.lower name) = .error u ∧
      (Fault.headerUnencodable u).message = .ok wording ∧
      let line := Registry.failedToResolve token wording
      line.level = .warning ∧ o.events = [line]
  /-- Nothing else is noticed. -/
  silent : (∀ name, field = some name → Text.Latin.IsLatin (Text.lower name)) → o.events = []

variable {b : Builtin} {sight : Sight} {headers : Headers} {σ : Type}

/-- A token that shows headers comes to the joined values of its field. -/
theorem LooksAt.resolve_apply (h : b.LooksAt sight headers) (field : Option String) (s : σ) :
    (Registry.builtin Registry.plain).resolve b.name sight field s =
      ⟨((Resolution.called (joined headers field)).line? b.name).toList,
        (Resolution.called (joined headers field)).value, s⟩ := by
  have hevaluate : b.evaluate sight field = joined headers field := by
    cases h with
    | request => rfl
    | response hsent => exact if_pos hsent
  rw [Registry.resolve_apply, Registry.resolution_builtin, hevaluate]

/-- Nothing is shown if there are no values. -/
theorem ofValues_eq_absent_iff {values : List String} :
    ofValues values = .absent ↔ values = [] := by
  cases values <;> simp [ofValues]

/-- A record keeps joined values as they are. -/
theorem value_ofValues (values : List String) :
    (Resolution.called (.ok (ofValues values))).value = .ok (ofValues values) := by
  cases values <;> rfl

/-- A token that shows headers shows its field. -/
theorem LooksAt.showsField (h : b.LooksAt sight headers) (field : Option String) (s : σ) :
    ShowsField headers field b.name
      ((Registry.builtin Registry.plain).resolve b.name sight field s) := by
  rw [h.resolve_apply]
  rcases joined_cases headers field with ⟨hnone, hjoined⟩ | ⟨name, rfl, hname, hlatin, hjoined⟩ |
    ⟨name, u, rfl, hname, hlatin, hu, hjoined⟩
  · rw [hjoined]
    refine ⟨?_, ?_, ?_, fun _ => rfl⟩
    · rintro name rfl hname
      simp [hname] at hnone
    · exact ⟨fun _ => hnone.imp_right .inl, fun _ => rfl⟩
    · rintro name rfl hlatin
      obtain rfl : name = "" := by simpa using hnone
      exact absurd (by decide) hlatin
  · rw [hjoined, value_ofValues]
    refine ⟨?_, ?_, ?_, fun _ => rfl⟩
    · rintro _ ⟨⟩ - hvalues
      obtain ⟨value, values, hcons⟩ := List.exists_cons_of_ne_nil hvalues
      rw [hcons]
      rfl
    · simp [ofValues_eq_absent_iff, hname, hlatin]
    · rintro _ ⟨⟩ hnot
      exact absurd hlatin hnot
  · rw [hjoined]
    refine ⟨?_, ?_, ?_, fun hall => absurd (hall name rfl) hlatin⟩
    · rintro _ ⟨⟩ - hvalues
      exact absurd (Headers.named_of_not_isLatin hlatin) hvalues
    · exact ⟨fun _ => .inr (.inr ⟨name, rfl, .inr hlatin⟩), fun _ => rfl⟩
    · rintro _ ⟨⟩ -
      exact ⟨u, _, hu, rfl, rfl, rfl⟩

/-- The referring page is the first value under the one name, or else under the other. -/
theorem evaluate_referrer (sight : Sight) (argument : Option String) :
    referrer.evaluate sight argument =
      .ok (.ofText? (((sight.request.headers.named "referer").head?.filter (· ≠ "")).or
        (sight.request.headers.named "referrer").head?)) := by
  have hfirst : sight.request.headers.get? "referer" =
      .ok (sight.request.headers.named "referer").head? :=
    Headers.get?_of_lower (by decide +kernel) (by decide)
  have hsecond : sight.request.headers.get? "referrer" =
      .ok (sight.request.headers.named "referrer").head? :=
    Headers.get?_of_lower (by decide +kernel) (by decide)
  unfold evaluate
  dsimp only
  rw [hfirst, hsecond]
  cases hvalue : (sight.request.headers.named "referer").head? with
  | none => rfl
  | some value =>
      by_cases hempty : value = ""
      · subst hempty
        rfl
      · simp [bind, Except.bind, pure, Except.pure, Value.ofText?, Value.truth, Option.filter,
          hempty]

/-- **Headers.**  A token that shows headers shows the values of its field, whatever stands under
other names, in whatever letter case the field is given, and in whatever exchange; and the referring
page is the first value that was sent under its usual name, unless that is missing or empty, and
else the first one under its other name. -/
theorem resolve_header (h : b.LooksAt sight headers) (field : Option String) (s : σ) :
    let o := (Registry.builtin Registry.plain).resolve b.name sight field s
    o.state = s ∧ ShowsField headers field b.name o ∧
      (∀ (sight' : Sight) (headers' : Headers) (field' : Option String),
        b.LooksAt sight' headers' → field'.map Text.lower = field.map Text.lower →
        (∀ name ∈ field,
          headers'.named (Text.lower name) = headers.named (Text.lower name)) →
        (Registry.builtin Registry.plain).resolve b.name sight' field' s = o) ∧
      ∀ argument, (Registry.builtin Registry.plain).resolve "referrer" sight argument s =
        ⟨[], .ok (.ofText? (((sight.request.headers.named "referer").head?.filter (· ≠ "")).or
          (sight.request.headers.named "referrer").head?)), s⟩ := by
  refine ⟨?_, h.showsField field s, fun sight' headers' field' h' hfield hnamed => ?_,
    fun argument => ?_⟩
  · rw [h.resolve_apply]
  · rw [h.resolve_apply, h'.resolve_apply, joined_congr hfield hnamed]
  · exact Registry.resolve_simple (evaluate_referrer sight argument)
      (Value.isPlain_ofText? _).isSimple s

/-- Two values with another header between them, of which the second is empty, and a name that no
bytes are read as. -/
theorem resolve_header_interleaved :
    let bytes (s : String) : Bytes := s.toList.map fun c => UInt8.ofNat c.toNat
    let headers : Headers :=
      ⟨[(bytes "x-tag", bytes "a"), (bytes "accept", bytes "b"), (bytes "x-tag", [])]⟩
    let sight : Sight :=
      ⟨{ method := .text "GET", url := .text "/", headers }, {}, ⟨2024, 5, 1, 12, 0, 0, 0, none⟩⟩
    let resolve (name : String) :=
      (Registry.builtin Registry.plain).resolve requestHeader.name sight (some name) ()
    requestHeader.LooksAt sight headers ∧ (resolve "X-Tag").result = .ok (.text "a, ") ∧
      (resolve "X-Tag").events = [] ∧ (resolve "x-Ω").result = .ok .absent ∧
      ∃ line, line.level = .warning ∧ (resolve "x-Ω").events = [line] := by
  intro bytes headers sight resolve
  have hlooks : requestHeader.LooksAt sight headers := .request
  have hlower : Text.lower "X-Tag" = "x-tag" := by decide +kernel
  have hvalues : headers.named (Text.lower "X-Tag") = ["a", ""] := by
    rw [hlower]
    decide +kernel
  have hunnamed : ¬Text.Latin.IsLatin (Text.lower "x-Ω") := by decide +kernel
  obtain ⟨-, htag, -⟩ := resolve_header hlooks (some "X-Tag") ()
  obtain ⟨-, homega, -⟩ := resolve_header hlooks (some "x-Ω") ()
  have hshown := htag.values "X-Tag" rfl (by decide) (by simp [hvalues])
  rw [hvalues] at hshown
  obtain ⟨u, wording, -, -, hwarning, hevents⟩ := homega.warned "x-Ω" rfl hunnamed
  refine ⟨hlooks, hshown, htag.silent ?_, ?_, _, hwarning, hevents⟩
  · rintro _ ⟨⟩
    rw [hlower]
    decide
  · exact homega.absent.mpr (.inr (.inr ⟨_, rfl, .inr hunnamed⟩))

end Token.Builtin

end RequestLog
