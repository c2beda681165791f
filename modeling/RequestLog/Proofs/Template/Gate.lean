import RequestLog.Proofs.Template.Meaning

/-!
# Responses whose headers have not been sent

Until its headers have been sent nothing is seen of a response but the mark of its start. Two
exchanges may differ in what has not been sent (`Sight.SameBefore`), and a resolver is gated if it
tells no such two apart (`Resolver.IsGated`). Each built-in token is (`evaluate_gated`). Whatever
the registry, it is enough that all its resolvers are: then a compiled template tells no such two
exchanges apart either (`build_gated`). The main statement is `unsent_unseen`.
-/

namespace RequestLog

variable {σ : Type}

/-- The headers of the response have not been sent. -/
def Response.IsUnsent (r : Response) : Prop := r.headersSent.truth = false

/-- The exchanges are the same at the same moment, but for what has not been sent of their
responses: status, headers, and whether the response is finished. -/
structure Sight.SameBefore (a b : Sight) : Prop where
  request : a.request = b.request
  now : a.now = b.now
  started : a.response.started = b.response.started
  unsent : a.response.IsUnsent
  unsent' : b.response.IsUnsent

/-- The resolver does not tell exchanges apart by what has not been sent. -/
def Resolver.IsGated (resolver : Resolver σ) : Prop :=
  ∀ a b : Sight, a.SameBefore b → resolver a = resolver b

/-- No resolver of the registry tells exchanges apart by what has not been sent. -/
def Registry.IsGated (registry : Registry (Resolver σ)) : Prop :=
  ∀ name resolver, registry.tokens.get? name = some resolver → resolver.IsGated

/-! ### Tokens -/

/-- **Tokens.**  No built-in token shows anything of a response before its headers have been sent,
the time that it took apart. -/
theorem Token.Builtin.evaluate_gated (b : Builtin) {x y : Sight} (h : x.SameBefore y) :
    b.evaluate x = b.evaluate y := by
  obtain ⟨request, response, now⟩ := x
  obtain ⟨request', response', now'⟩ := y
  obtain ⟨rfl, rfl, hstarted, hunsent, hunsent'⟩ := h
  dsimp only at hstarted hunsent hunsent'
  unfold Response.IsUnsent at hunsent hunsent'
  funext argument
  cases b with
  | responseTime => simp only [evaluate, Timing.responseTime, hstarted]
  | status => simp [evaluate, hunsent, hunsent']
  | responseHeader => simp [evaluate, hunsent, hunsent']
  | _ => rfl

/-- The built-in tokens do not look at what has not been sent. -/
theorem Registry.isGated_builtin :
    (Registry.builtin Registry.plain : Registry (Resolver σ)).IsGated := by
  intro name resolver h x y hxy
  rw [get?_builtin, Option.map_eq_some_iff] at h
  obtain ⟨b, -, rfl⟩ := h
  funext argument s
  simp only [plain, b.evaluate_gated hxy]

/-! ### Records -/

section Records

variable {registry : Registry (Resolver σ)} {a b : Sight}

/-- A token of a gated registry comes to the same, with the same lines in the log. -/
theorem Registry.IsGated.resolve_eq (h : registry.IsGated) (hab : a.SameBefore b) (name : String)
    (argument : Option String) :
    registry.resolve name a argument = registry.resolve name b argument := by
  unfold resolve
  cases hresolver : registry.tokens.get? name with
  | none => rfl
  | some resolver =>
      dsimp only
      rw [h name resolver hresolver a b hab]

namespace Template

/-- With a gated registry the values of a template hang on what has been sent alone. -/
theorem fieldValues_gated (h : registry.IsGated) (hab : a.SameBefore b) (ps : List Placeholder) :
    fieldValues registry a ps = fieldValues registry b ps := by
  induction ps with
  | nil => rfl
  | cons p rest ih => rw [fieldValues, fieldValues, h.resolve_eq hab, ih]

/-- **Records.**  With a gated registry a template does not tell exchanges apart by what has not
been sent: it comes to the same, with the same lines in the log. -/
theorem build_gated (h : registry.IsGated) (hab : a.SameBefore b) (t : Template) :
    t.build registry a = t.build registry b := by
  rw [build, build, fieldValues_gated h hab]

end Template

end Records

/-! ### Records that there are -/

/-- A record can hold what it may take from the request: the address, the method, and the address of
the client. -/
structure Request.Presents (r : Request) : Prop where
  url : (r.fullUrl.orElse r.url).Fits
  method : r.method.Fits
  client : r.clientAddress.Fits

/-- A record can hold what it may take from a plain request. -/
theorem Request.IsPlain.presents {r : Request} (h : r.IsPlain) : r.Presents where
  url := by
    obtain ⟨url, hurl⟩ := h.url
    obtain ⟨fullUrl, hfullUrl⟩ := h.fullUrl
    rw [hurl, hfullUrl]
    exact .inl ((Value.isPlain_text _).orElse (Value.isPlain_text _)).isSimple
  method := by
    obtain ⟨method, hmethod⟩ := h.method
    rw [hmethod]
    exact .inl rfl
  client := .inl h.clientAddress.isSimple

/-- Before the headers have been sent, a record can hold what a built-in token gives if it can hold
what it may take from the request. -/
theorem Token.Builtin.fits_of_evaluate {b : Builtin} {sight : Sight} {argument : Option String}
    {v : Value} (hrequest : sight.request.Presents) (hunsent : sight.response.IsUnsent)
    (h : b.evaluate sight argument = .ok v) : v.Fits := by
  rcases origin_of_evaluate h with hplain | rfl | rfl | rfl | ⟨hsent, -⟩
  · exact .inl hplain.isSimple
  · exact hrequest.url
  · exact hrequest.method
  · exact hrequest.client
  · rw [hunsent] at hsent
    cases hsent

section Unsent

variable {sight : Sight}

/-- Before the headers have been sent, a token comes to a value by the built-in tokens, and no state
changes. -/
theorem Registry.resolve_unsent (hrequest : sight.request.Presents)
    (hunsent : sight.response.IsUnsent) (name : String) (argument : Option String) :
    ∃ lines v, ∀ {σ : Type} (s : σ),
      (Registry.builtin Registry.plain).resolve name sight argument s = ⟨lines, .ok v, s⟩ := by
  unfold resolve
  simp only [get?_builtin]
  cases Token.Builtin.all.find? fun b => name == b.name with
  | none => exact ⟨[], .absent, fun _ => rfl⟩
  | some b =>
      dsimp only [Option.map_some]
      cases hgiven : b.evaluate sight argument with
      | error f =>
          obtain ⟨wording, hwording⟩ := b.failsInWords_evaluate sight argument f hgiven
          refine ⟨[failedToResolve name wording], .absent, fun s => ?_⟩
          rw [Act.bind_of_ok (Act.attempt_apply _ s)]
          simp only [Act.ask_apply, plain, hgiven, hwording]
          rfl
      | ok v =>
          obtain ⟨w, hw⟩ :=
            (Token.Builtin.fits_of_evaluate hrequest hunsent hgiven).simplify_ok
          refine ⟨[], w, fun s => ?_⟩
          rw [Act.bind_of_ok (Act.attempt_apply _ s)]
          simp only [Act.ask_apply, plain, hgiven, hw]
          rfl

theorem Template.fieldValues_unsent (hrequest : sight.request.Presents)
    (hunsent : sight.response.IsUnsent) (ps : List Placeholder) :
    ∃ lines values, ∀ {σ : Type} (s : σ),
      fieldValues (Registry.builtin Registry.plain) sight ps s = ⟨lines, .ok values, s⟩ := by
  induction ps with
  | nil => exact ⟨[], [], fun _ => rfl⟩
  | cons p rest ih =>
      obtain ⟨lines, v, hp⟩ := Registry.resolve_unsent hrequest hunsent p.name p.argument
      obtain ⟨lines', values, hrest⟩ := ih
      refine ⟨lines ++ lines', (p.key, v) :: values, fun s => ?_⟩
      rw [fieldValues_cons _ _ (hp s), hrest]
      rfl

end Unsent

namespace Template

/-- **Unsent responses.**  A text that is not empty is compiled, and while the headers of a response
have not been sent, the built-in tokens make of two responses that are marked alike the same record
and the same lines in the log, whatever their status and headers are and whether or not they are
finished. There is a record if the request presents itself, and no state changes. -/
theorem unsent_unseen {source : String} (hsource : source ≠ "") :
    ∃ t, compile source = .ok t ∧
      ∀ (request : Request) (now : Moment) (a b : Response), a.IsUnsent → b.IsUnsent →
        a.started = b.started →
          (∀ {σ : Type} (s : σ),
            t.build (Registry.builtin Registry.plain) ⟨request, a, now⟩ s =
              t.build (Registry.builtin Registry.plain) ⟨request, b, now⟩ s) ∧
          (request.Presents → ∃ lines record, ∀ {σ : Type} (s : σ),
            t.build (Registry.builtin Registry.plain) ⟨request, a, now⟩ s =
                ⟨lines, .ok record, s⟩ ∧
              t.build (Registry.builtin Registry.plain) ⟨request, b, now⟩ s =
                ⟨lines, .ok record, s⟩) := by
  refine ⟨_, compile_ok hsource, ?_⟩
  intro request now a b ha hb hstarted
  have hsame : Sight.SameBefore ⟨request, a, now⟩ ⟨request, b, now⟩ := ⟨rfl, rfl, hstarted, ha, hb⟩
  have htwo : ∀ {σ : Type} (s : σ),
      build ⟨source, (scan source).eraseDups⟩ (Registry.builtin Registry.plain)
          ⟨request, a, now⟩ s =
        build ⟨source, (scan source).eraseDups⟩ (Registry.builtin Registry.plain)
          ⟨request, b, now⟩ s := by
    intro σ s
    rw [build_gated Registry.isGated_builtin hsame]
  refine ⟨htwo, fun hrequest => ?_⟩
  obtain ⟨lines, values, hvalues⟩ : ∃ lines values, ∀ {σ : Type} (s : σ),
      fieldValues (Registry.builtin Registry.plain) ⟨request, a, now⟩ (scan source).eraseDups s =
        ⟨lines, .ok values, s⟩ := fieldValues_unsent hrequest ha _
  refine ⟨lines, .ofList values, fun s => ?_⟩
  have hbuild : build ⟨source, (scan source).eraseDups⟩ (Registry.builtin Registry.plain)
      ⟨request, a, now⟩ s = ⟨lines, .ok (.ofList values), s⟩ := by
    rw [build_apply, hvalues]
    rfl
  exact ⟨hbuild, htwo s ▸ hbuild⟩

/-- A response that is made but not sent, and one that is only marked: the records are the same,
without a status, and so is the line about the time that cannot be rounded as asked for. -/
theorem unsent_unseen_pending :
    let source := ":status :res[server] :response-time[x] :method"
    let request : Request := { method := .text "GET", url := .text "/a", started := some 0 }
    let a : Response :=
      { statusCode := .int 200, headers := ⟨[([0x73], [0x61])]⟩, finished := .bool true,
        started := some 5 }
    let b : Response := { started := some 5 }
    source ≠ "" ∧ a.IsUnsent ∧ b.IsUnsent ∧ a.started = b.started ∧ request.Presents ∧
      ∃ t lines record, compile source = .ok t ∧
        t.build (Registry.builtin Registry.plain) ⟨request, a, Sight.atNoon.now⟩ () =
          ⟨lines, .ok record, ()⟩ ∧
        t.build (Registry.builtin Registry.plain) ⟨request, b, Sight.atNoon.now⟩ () =
          ⟨lines, .ok record, ()⟩ ∧
        record.get? "status" = some .absent ∧ record.get? "method" = some (.text "GET") ∧
        lines.map (·.level) = [.warning] := by
  intro source request a b
  have hsource : source ≠ "" := by decide
  have hpresents : request.Presents := ⟨.inl rfl, .inl rfl, .inl rfl⟩
  have hscan : (scan source).eraseDups = [⟨"status", none⟩, ⟨"res", some "server"⟩,
      ⟨"response-time", some "x"⟩, ⟨"method", none⟩] := by decide +kernel
  obtain ⟨t, ht, hunseen⟩ := unsent_unseen hsource
  obtain rfl : t = ⟨source, _⟩ := Except.ok.inj (ht.symm.trans (compile_ok hsource))
  obtain ⟨-, hrecord⟩ := hunseen request Sight.atNoon.now a b rfl rfl rfl
  obtain ⟨lines, record, hbuild⟩ := hrecord hpresents
  obtain ⟨ha, hb⟩ := hbuild ()
  refine ⟨hsource, rfl, rfl, rfl, hpresents, _, lines, record, ht, ha, hb, ?_⟩
  rw [hscan] at ha
  cases ha
  exact ⟨rfl, rfl, rfl⟩

end Template

end RequestLog
