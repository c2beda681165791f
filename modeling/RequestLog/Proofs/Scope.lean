import RequestLog.Exchange
import RequestLog.Proofs.Wording
import RequestLog.Timing

/-!
# Requests as servers present them

A server presents a request with texts for its method, its path and the address of the client, with
bytes for the path and the query as they came, and with a list of headers (`Scope.IsRequest`). Such
a scope can always be read (`ofScope_ok`), and what is read has values that a record keeps as they
are and that can be written (`Request.IsPlain`), also after the arrival has been marked.
-/

namespace RequestLog

/-- The scope presents a request: a path in bytes and a query may be missing or without a value,
headers may not. -/
structure Scope.IsRequest (scope : Scope) : Prop where
  kind : scope.kind = some (.text "http")
  headers : scope.headers.isSome
  method : ∀ v ∈ scope.method, ∃ s, v = .text s
  path : ∀ v ∈ scope.path, ∃ s, v = .text s
  rawPath : ∀ v ∈ scope.rawPath, v = .absent ∨ ∃ b, v = .bytes b
  query : ∀ v ∈ scope.query, v = .absent ∨ ∃ b, v = .bytes b
  httpVersion : ∀ v ∈ scope.httpVersion, ∃ s, v = .text s
  client : ∀ v ∈ scope.client.head?, ∃ s, v = .text s

/-- A request for a path, without headers. -/
def Scope.ofPath (path : String) : Scope :=
  { kind := some (.text "http"), method := some (.text "GET"), path := some (.text path)
    headers := some [] }

theorem Scope.isRequest_ofPath (path : String) : (Scope.ofPath path).IsRequest where
  kind := rfl
  headers := rfl
  method := fun _ hv => ⟨"GET", (Option.some.inj hv).symm⟩
  path := fun _ hv => ⟨path, (Option.some.inj hv).symm⟩
  rawPath := fun _ hv => nomatch hv
  query := fun _ hv => nomatch hv
  httpVersion := fun _ hv => nomatch hv
  client := fun _ hv => nomatch hv

/-- What the log reads of the request are values that a record keeps as they are and that can be
written. -/
structure Request.IsPlain (r : Request) : Prop where
  method : ∃ s, r.method = .text s
  url : ∃ s, r.url = .text s
  fullUrl : ∃ s, r.fullUrl = .text s
  ip : r.ip.IsPlain
  remoteAddress : r.remoteAddress.IsPlain
  socketAddress : r.socketAddress.IsPlain

namespace Value

/-- A value that counts as true and is nothing or bytes has characters. -/
theorem decoded_ok {v : Value} (htruth : v.truth) (h : v = .absent ∨ ∃ b, v = .bytes b) :
    ∃ s, Request.decoded v = .ok s := by
  rcases h with rfl | ⟨b, rfl⟩
  · cases htruth
  · exact ⟨_, rfl⟩

end Value

namespace Request

variable {scope : Scope}

/-- The logged path of a request is a text. -/
theorem pathOf_ok (h : scope.IsRequest) : ∃ s, pathOf scope = .ok (.text s) := by
  unfold pathOf
  cases hraw : scope.rawPath.filter Value.truth with
  | none =>
      cases hpath : scope.path with
      | none => exact ⟨"", rfl⟩
      | some v =>
          obtain ⟨s, rfl⟩ := h.path v hpath
          exact ⟨s, rfl⟩
  | some raw =>
      obtain ⟨hmem, htruth⟩ := Option.filter_eq_some_iff.mp hraw
      obtain ⟨s, hs⟩ := Value.decoded_ok htruth (h.rawPath raw hmem)
      exact ⟨s, by simp [hs, bind, Except.bind, pure, Except.pure]⟩

/-- The two addresses of a request are texts. -/
theorem addressesOf_ok (h : scope.IsRequest) :
    ∃ url fullUrl, addressesOf scope = .ok (.text url, .text fullUrl) := by
  obtain ⟨path, hpath⟩ := pathOf_ok h
  unfold addressesOf
  rw [hpath]
  cases hquery : scope.query.filter Value.truth with
  | none => exact ⟨path, path, rfl⟩
  | some query =>
      obtain ⟨hmem, htruth⟩ := Option.filter_eq_some_iff.mp hquery
      obtain ⟨s, hs⟩ := Value.decoded_ok htruth (h.query query hmem)
      refine ⟨path, path ++ ("?" ++ s), ?_⟩
      simp [hs, extended, bind, Except.bind, pure, Except.pure]

/-- The forwarding header can always be looked up. -/
theorem forwarded_ok (headers : Headers) :
    ∃ forwarded, headers.get? "x-forwarded-for" = .ok forwarded :=
  ⟨_, rfl⟩

theorem isPlain_forwardedAddress (forwarded : Option String) :
    (forwardedAddress forwarded).IsPlain := by
  cases forwarded with
  | none => exact Value.isPlain_absent
  | some s => exact (Value.isPlain_text _).orElse Value.isPlain_absent

/-- A scope with headers whose addresses can be made out is read. -/
theorem ofScope_eq {entries : List (Bytes × Bytes)} {url fullUrl : Value}
    (hentries : scope.headers = some entries)
    (hurls : addressesOf scope = .ok (url, fullUrl)) (trustProxy : Bool) :
    ∃ forwarded, ofScope scope trustProxy = .ok
      { method := scope.method.getD (.text "GET")
        url := url
        fullUrl := fullUrl
        headers := ⟨entries⟩
        httpVersion := scope.httpVersion.getD (.text "1.1")
        ip := forwardedAddress forwarded
        socketAddress := scope.client.headD .absent } := by
  obtain ⟨forwarded, hforwarded⟩ := forwarded_ok ⟨entries⟩
  refine ⟨if trustProxy then forwarded else none, ?_⟩
  unfold ofScope
  rw [hentries]
  cases trustProxy <;>
    simp [hurls, hforwarded, bind, Except.bind, pure, Except.pure]

/-- A request that a server presents can be read, whether or not a proxy is trusted. -/
theorem ofScope_ok (h : scope.IsRequest) (trustProxy : Bool) :
    ∃ request, ofScope scope trustProxy = .ok request ∧ request.IsPlain := by
  obtain ⟨entries, hentries⟩ := Option.isSome_iff_exists.mp h.headers
  obtain ⟨url, fullUrl, hurls⟩ := addressesOf_ok h
  obtain ⟨forwarded, hread⟩ := ofScope_eq hentries hurls trustProxy
  refine ⟨_, hread, ?_⟩
  constructor
  case method =>
    cases hmethod : scope.method with
    | none => exact ⟨"GET", rfl⟩
    | some v => exact h.method v hmethod
  case url => exact ⟨url, rfl⟩
  case fullUrl => exact ⟨fullUrl, rfl⟩
  case ip => exact isPlain_forwardedAddress _
  case remoteAddress => exact Value.isPlain_absent
  case socketAddress =>
    cases hclient : scope.client with
    | nil => exact Value.isPlain_absent
    | cons v rest =>
        obtain ⟨s, rfl⟩ := h.client v (by rw [hclient]; rfl)
        exact Value.isPlain_text s

theorem IsPlain.clientAddress {r : Request} (h : r.IsPlain) : r.clientAddress.IsPlain :=
  ((h.ip.orElse h.remoteAddress).orElse h.socketAddress).orElse Value.isPlain_absent

/-- Marking the arrival of a request keeps its values plain. -/
theorem IsPlain.markedAt {r : Request} (h : r.IsPlain) (reading : Int) :
    (r.markedAt reading).IsPlain :=
  { h with remoteAddress := h.clientAddress }

end Request

end RequestLog
