import RequestLog.Proofs.Build
import RequestLog.Proofs.Text.Parts

/-!
# Addresses that clients claim

The address of a client is that of the other end of its connection, unless the proxy in front is
trusted and says another one in the header for it: what stands before the first comma, without
blanks around it (`IsFirstHop`). Whatever else a client sends does not change its address, and
without trust nothing that it sends does. `Scope.Shows` says which address a request has from its
arrival on. The main statement is `address_unforged`.
-/

namespace RequestLog

/-! ### What a forwarding header says -/

/-- The first hop of a forwarding header: what stands before its first comma, without the blanks
around it. -/
def IsFirstHop (value hop : String) : Prop :=
  ∃ before after, value.toList = before ++ after ∧ ',' ∉ before ∧ (∀ c ∈ after.head?, c = ',') ∧
    Text.IsCore Text.isBlank before hop.toList

/-- What is read of a forwarding header is its first hop. -/
theorem isFirstHop_iff {value hop : String} :
    IsFirstHop value hop ↔
      Text.trim (String.ofList ((Text.cutAt ',' value.toList).elim value.toList (·.1))) = hop := by
  rw [Text.trim, String.toList_ofList, ← String.toList_inj, String.toList_ofList,
    Text.trimBy_eq_iff]
  constructor
  · rintro ⟨before, after, hvalue, hbefore, hafter, hcore⟩
    rwa [Text.cutAt_elim_eq_iff.mpr ⟨after, hvalue, hbefore, hafter⟩]
  · intro hcore
    generalize hfront : (Text.cutAt ',' value.toList).elim value.toList (·.1) = before at hcore
    obtain ⟨after, hvalue, hbefore, hafter⟩ := Text.cutAt_elim_eq_iff.mp hfront
    exact ⟨_, after, hvalue, hbefore, hafter, hcore⟩

/-- **First hops.**  A forwarding header has one first hop, and gives it as an address unless it is
empty. -/
theorem Request.exists_isFirstHop (value : String) :
    ∃ hop, IsFirstHop value hop ∧
      forwardedAddress (some value) = if hop = "" then .absent else .text hop := by
  refine ⟨_, isFirstHop_iff.mpr rfl, ?_⟩
  generalize hhop : Text.trim _ = hop
  simp only [forwardedAddress, hhop, Value.orElse, Value.truth]
  by_cases hempty : hop = ""
  · simp [hempty]
  · simp [hempty]

/-! ### The address of a request -/

/-- A built-in token that gives a value as a record keeps it comes to that value. -/
theorem Registry.resolve_simple {b : Token.Builtin} {sight : Sight} {argument : Option String}
    {v : Value} (h : b.evaluate sight argument = .ok v) (hv : v.isSimple) {σ : Type} (s : σ) :
    (Registry.builtin Registry.plain).resolve b.name sight argument s = ⟨[], .ok v, s⟩ := by
  rw [resolve, get?_builtin_name]
  dsimp only
  rw [Act.bind_of_ok (Act.attempt_apply _ s)]
  simp only [Act.ask_apply, plain, h, Value.simplify_of_isSimple hv]
  rfl

theorem Value.orElse_assoc (u v w : Value) : (u.orElse v).orElse w = u.orElse (v.orElse w) := by
  unfold orElse
  cases hu : u.truth <;> simp [hu]

/-- The name of the header in which a proxy says for whom it asks. -/
def Headers.forwardedName : Bytes := "x-forwarded-for".toList.map fun c => UInt8.ofNat c.toNat

namespace Scope

variable {scope : Scope} {trust : Bool}

/-- What the first forwarding header says. -/
def forwarded? (scope : Scope) : Option String :=
  ((scope.headers.getD []).find? fun e => e.1 == Headers.forwardedName).map fun e =>
    Text.Latin.decode e.2

/-- The other end of the connection, unless it is missing or empty. -/
def host (scope : Scope) : Value := (scope.client.headD .absent).orElse .absent

/-- From its arrival on, whenever that is, the request has the address, and this is what its token
comes to. -/
def Shows (scope : Scope) (trust : Bool) (address : Value) : Prop :=
  ∃ request, Request.ofScope scope trust = .ok request ∧
    ∀ clock : Clock, (request.start clock).1.clientAddress = address ∧
      ∀ {σ : Type} (argument : Option String) (response : Response) (now : Moment) (s : σ),
        (Registry.builtin Registry.plain).resolve "remote-addr"
          ⟨(request.start clock).1, response, now⟩ argument s = ⟨[], .ok address, s⟩

/-- A request has one address only. -/
theorem Shows.unique {address address' : Value} (h : scope.Shows trust address)
    (h' : scope.Shows trust address') : address = address' := by
  obtain ⟨request, hread, hshown⟩ := h
  obtain ⟨request', hread', hshown'⟩ := h'
  cases hread.symm.trans hread'
  exact (hshown (.ofList [])).1.symm.trans (hshown' (.ofList [])).1

end Scope

namespace Request

/-- The address of a client is that of the first of its sources that is something. -/
theorem clientAddress_eq (r : Request) :
    r.clientAddress = r.ip.orElse (r.remoteAddress.orElse (r.socketAddress.orElse .absent)) := by
  rw [clientAddress, Value.orElse_assoc, Value.orElse_assoc]

/-- **Arrivals.**  Keeping the address at the arrival of a request does not change it. -/
theorem clientAddress_markedAt (r : Request) (reading : Int) :
    (r.markedAt reading).clientAddress = r.clientAddress := by
  simp only [clientAddress_eq, markedAt]
  cases hip : r.ip.truth <;> cases hremote : r.remoteAddress.truth <;>
    cases hsocket : r.socketAddress.truth <;> simp [Value.orElse, hip, hremote, hsocket]

variable {scope : Scope} {trust : Bool}

/-- The forwarding header is looked up by its name. -/
theorem get?_forwarded (entries : List (Bytes × Bytes)) :
    (⟨entries⟩ : Headers).get? "x-forwarded-for" =
      .ok ((entries.find? fun e => e.1 == Headers.forwardedName).map fun e =>
        Text.Latin.decode e.2) := by
  have hkey : Headers.lookupKey "x-forwarded-for" = .ok Headers.forwardedName := by rfl
  rw [Headers.get?, Headers.getAll, hkey, ← List.head?_filter, ← List.head?_map]
  rfl

/-- The address of a request that is read from its scope. -/
theorem clientAddress_ofScope {r : Request} (h : ofScope scope trust = .ok r) :
    r.clientAddress =
      (forwardedAddress (if trust then scope.forwarded? else none)).orElse scope.host := by
  unfold ofScope at h
  cases hheaders : scope.headers with
  | none =>
      rw [hheaders] at h
      cases h
  | some entries =>
      rw [hheaders] at h
      obtain ⟨urls, -, h⟩ := ok_of_bind (x := addressesOf scope) h
      have hforwarded : scope.forwarded? =
          (entries.find? fun e => e.1 == Headers.forwardedName).map fun e =>
            Text.Latin.decode e.2 := by
        rw [Scope.forwarded?, hheaders]
        rfl
      rw [hforwarded, clientAddress_eq]
      cases trust with
      | false =>
          cases h
          rfl
      | true =>
          rw [get?_forwarded] at h
          cases h
          rfl

end Request

namespace Scope

variable {scope : Scope}

/-- A request has the address that a trusted proxy gives it, or else that of the connection. -/
theorem IsRequest.shows (h : scope.IsRequest) (trust : Bool) :
    scope.Shows trust
      ((Request.forwardedAddress (if trust then scope.forwarded? else none)).orElse
        scope.host) := by
  obtain ⟨request, hread, hplain⟩ := Request.ofScope_ok h trust
  rw [← Request.clientAddress_ofScope hread]
  refine ⟨request, hread, fun clock => ?_⟩
  have haddress : (request.start clock).1.clientAddress = request.clientAddress :=
    Request.clientAddress_markedAt request _
  refine ⟨haddress, fun argument response now s => ?_⟩
  refine Registry.resolve_simple (b := .remoteAddress) ?_ hplain.clientAddress.isSimple s
  rw [← haddress]
  rfl

/-- **Forged addresses.**  Two requests come over connections from the same address. If no proxy is
trusted, both have this address, whatever else they are, or none if it is missing or empty. If a
proxy is trusted, a request has the first hop of its first forwarding header as its address, or else
that of the connection, so that two requests with the same first forwarding header have the same
address. -/
theorem address_unforged {a b : Scope} (ha : a.IsRequest) (hb : b.IsRequest)
    (hclient : a.client = b.client) :
    a.Shows false a.host ∧ b.Shows false a.host ∧
      (a.forwarded? = none → a.Shows true a.host) ∧
      (∀ value, a.forwarded? = some value →
        ∃ hop, IsFirstHop value hop ∧ a.Shows true (if hop = "" then a.host else .text hop)) ∧
      (a.forwarded? = b.forwarded? → ∀ address, a.Shows true address ↔ b.Shows true address) := by
  have hhost : a.host = b.host := by rw [host, host, hclient]
  refine ⟨ha.shows false, hhost ▸ hb.shows false, ?_, ?_, ?_⟩
  · intro hnone
    have hshows := ha.shows true
    rwa [hnone] at hshows
  · intro value hvalue
    obtain ⟨hop, hhop, haddress⟩ := Request.exists_isFirstHop value
    refine ⟨hop, hhop, ?_⟩
    have hshows := ha.shows true
    rw [if_pos rfl, hvalue, haddress] at hshows
    by_cases hempty : hop = ""
    · rw [if_pos hempty] at hshows ⊢
      exact hshows
    · rw [if_neg hempty] at hshows ⊢
      simpa [Value.orElse, Value.truth, hempty] using hshows
  · intro hforwarded address
    have hshowsA := ha.shows true
    have hshowsB := hb.shows true
    rw [hforwarded, hhost] at hshowsA
    constructor
    · intro h
      exact h.unique hshowsA ▸ hshowsB
    · intro h
      exact h.unique hshowsB ▸ hshowsA

/-- A client that says of itself that it was forwarded, and one that does not, over connections from
one address. -/
theorem address_unforged_forwarding :
    let client : List Value := [.text "10.0.0.7", .int 5]
    let claim : Bytes := " 1.2.3.4 , 5.6.7.8".toList.map fun c => UInt8.ofNat c.toNat
    let a : Scope :=
      { ofPath "/a" with client := client, headers := some [(Headers.forwardedName, claim)] }
    let b : Scope := { ofPath "/b" with client := client }
    a.IsRequest ∧ b.IsRequest ∧ a.client = b.client ∧
      a.Shows false (.text "10.0.0.7") ∧ b.Shows false (.text "10.0.0.7") ∧
      a.Shows true (.text "1.2.3.4") ∧ b.Shows true (.text "10.0.0.7") := by
  intro client claim a b
  have hhost : ∀ v ∈ client.head?, ∃ s, v = .text s :=
    fun _ hv => ⟨"10.0.0.7", (Option.some.inj hv).symm⟩
  have ha : a.IsRequest := { isRequest_ofPath "/a" with headers := rfl, client := hhost }
  have hb : b.IsRequest := { isRequest_ofPath "/b" with client := hhost }
  obtain ⟨hshowsA, hshowsB, -, hforwarded, -⟩ := address_unforged ha hb rfl
  obtain ⟨-, -, hdirect, -, -⟩ := address_unforged hb ha rfl
  obtain ⟨hop, hhop, htrusted⟩ := hforwarded " 1.2.3.4 , 5.6.7.8" (by decide +kernel)
  have hfirst : "1.2.3.4" = hop := by
    rw [← isFirstHop_iff.mp hhop]
    decide +kernel
  subst hfirst
  exact ⟨ha, hb, rfl, hshowsA, hshowsB, htrusted, hdirect rfl⟩

end Scope

end RequestLog
