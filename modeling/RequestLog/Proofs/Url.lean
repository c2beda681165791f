import RequestLog.Proofs.Forwarding
import RequestLog.Proofs.Text.Latin

/-!
# What the url tells

The url of a request is logged with the path as the client wrote it and the query behind a question
mark. As such a path holds no question mark, the two are found again in the url, byte by byte. The
main statement is `url_tells`.
-/

namespace RequestLog

/-- The byte of the question mark. -/
def queryMark : UInt8 := 63

/-- The bytes of a path, and of a query behind a question mark unless it is empty. -/
def joinedUrl (path query : Bytes) : Bytes :=
  path ++ if query = [] then [] else queryMark :: query

section JoinedUrl

variable {path query : Bytes}

/-- The path is what stands before the first question mark. -/
theorem takeWhile_joinedUrl (h : queryMark ∉ path) :
    (joinedUrl path query).takeWhile (· ≠ queryMark) = path := by
  refine Text.takeWhile_run (fun b hb => decide_eq_true fun heq => h (heq ▸ hb)) ?_
  split <;> simp

/-- The query is what stands behind the first question mark. -/
theorem tail_dropWhile_joinedUrl (h : queryMark ∉ path) :
    ((joinedUrl path query).dropWhile (· ≠ queryMark)).tail = query := by
  have hdrop : (joinedUrl path query).dropWhile (· ≠ queryMark) =
      if query = [] then [] else queryMark :: query := by
    refine Text.dropWhile_run (fun b hb => decide_eq_true fun heq => h (heq ▸ hb)) ?_
    split <;> simp
  rw [hdrop]
  split
  · rename_i hquery
    exact hquery.symm
  · rfl

/-- Bytes that are joined without a question mark in the path are told apart. -/
theorem joinedUrl_inj {path' query' : Bytes} (h : queryMark ∉ path) (h' : queryMark ∉ path') :
    joinedUrl path query = joinedUrl path' query' ↔ path = path' ∧ query = query' := by
  constructor
  · intro heq
    have hpath : path = path' :=
      calc path = (joinedUrl path query).takeWhile (· ≠ queryMark) := (takeWhile_joinedUrl h).symm
        _ = (joinedUrl path' query').takeWhile (· ≠ queryMark) := by rw [heq]
        _ = path' := takeWhile_joinedUrl h'
    have hquery : query = query' :=
      calc query = ((joinedUrl path query).dropWhile (· ≠ queryMark)).tail :=
            (tail_dropWhile_joinedUrl h).symm
        _ = ((joinedUrl path' query').dropWhile (· ≠ queryMark)).tail := by rw [heq]
        _ = query' := tail_dropWhile_joinedUrl h'
    exact ⟨hpath, hquery⟩
  · rintro ⟨rfl, rfl⟩
    rfl

end JoinedUrl

namespace Scope

/-- The scope presents a path as the client wrote it, which is not empty and has no question mark,
and a query, which is missing at most if it is empty. -/
structure Presents (scope : Scope) (path query : Bytes) : Prop where
  headers : scope.headers.isSome
  rawPath : scope.rawPath = some (.bytes path)
  nonempty : path ≠ []
  unmarked : queryMark ∉ path
  query : scope.query = some (.bytes query) ∨ scope.query = none ∧ query = []

/-- A request can be read from the scope, and the token for its url comes to that text. -/
def ShowsUrl (scope : Scope) (trust : Bool) (url : String) : Prop :=
  ∃ request, Request.ofScope scope trust = .ok request ∧
    ∀ {σ : Type} (argument : Option String) (response : Response) (now : Moment) (s : σ),
      (Registry.builtin Registry.plain).resolve "url" ⟨request, response, now⟩ argument s =
        ⟨[], .ok (.text url), s⟩

namespace Presents

variable {scope : Scope} {path query : Bytes}

theorem addressesOf_eq (h : scope.Presents path query) :
    Request.addressesOf scope =
      .ok (.text (Text.Latin.decode path), .text (Text.Latin.decode (joinedUrl path query))) := by
  have hpath : Request.pathOf scope = .ok (.text (Text.Latin.decode path)) := by
    obtain ⟨b, rest, rfl⟩ := List.exists_cons_of_ne_nil h.nonempty
    unfold Request.pathOf
    rw [h.rawPath]
    rfl
  have hbare : scope.query.filter Value.truth = none → Request.addressesOf scope =
      .ok (.text (Text.Latin.decode path), .text (Text.Latin.decode path)) := by
    intro hnone
    unfold Request.addressesOf
    rw [hpath, hnone]
    rfl
  cases query with
  | nil =>
      rw [joinedUrl, if_pos rfl, List.append_nil]
      refine hbare ?_
      rcases h.query with hquery | ⟨hquery, -⟩ <;> rw [hquery] <;> rfl
  | cons b rest =>
      have hquery : scope.query = some (.bytes (b :: rest)) := by
        rcases h.query with hquery | ⟨-, hempty⟩
        · exact hquery
        · cases hempty
      have hmark : Text.Latin.decode (queryMark :: b :: rest) =
          "?" ++ Text.Latin.decode (b :: rest) := Text.Latin.decode_append [queryMark] (b :: rest)
      rw [joinedUrl, if_neg (List.cons_ne_nil b rest), Text.Latin.decode_append, hmark]
      unfold Request.addressesOf
      rw [hpath, hquery]
      rfl

/-- The url that is shown is the path with the query, whatever else the scope presents. -/
theorem showsUrl (h : scope.Presents path query) (trust : Bool) :
    scope.ShowsUrl trust (Text.Latin.decode (joinedUrl path query)) := by
  obtain ⟨entries, hentries⟩ := Option.isSome_iff_exists.mp h.headers
  obtain ⟨forwarded, hread⟩ := Request.ofScope_eq hentries h.addressesOf_eq trust
  refine ⟨_, hread, fun argument response now s => ?_⟩
  have hnonempty : Text.Latin.decode (joinedUrl path query) ≠ "" := by
    intro hempty
    have hnil : joinedUrl path query = [] := Text.Latin.decode_inj.mp hempty
    exact h.nonempty (List.append_eq_nil_iff.mp hnil).1
  have hurl : (Value.text (Text.Latin.decode (joinedUrl path query))).orElse
      (.text (Text.Latin.decode path)) = .text (Text.Latin.decode (joinedUrl path query)) :=
    if_pos (by simpa [Value.truth] using hnonempty)
  exact Registry.resolve_simple (b := .url) (congrArg Except.ok hurl) rfl s

end Presents

/-- **Urls.**  The urls of two requests are equal exactly if both their paths and their queries are,
byte by byte, whether or not a proxy is trusted. The path is what stands before the first question
mark among the bytes of the url and the query is what stands behind it; the decoded path does not
matter. -/
theorem url_tells {a b : Scope} {pathA queryA pathB queryB : Bytes} (ha : a.Presents pathA queryA)
    (hb : b.Presents pathB queryB) (trustA trustB : Bool) :
    ∃ urlA urlB, a.ShowsUrl trustA urlA ∧ b.ShowsUrl trustB urlB ∧
      (urlA = urlB ↔ pathA = pathB ∧ queryA = queryB) ∧
      (∃ bytes, Text.Latin.encode urlA = .ok bytes ∧ bytes.takeWhile (· ≠ queryMark) = pathA ∧
        (bytes.dropWhile (· ≠ queryMark)).tail = queryA) ∧
      ∀ path, { a with path }.ShowsUrl trustA urlA := by
  refine ⟨_, _, ha.showsUrl trustA, hb.showsUrl trustB, ?_,
    ⟨_, Text.Latin.encode_eq_ok_iff.mpr rfl, takeWhile_joinedUrl ha.unmarked,
      tail_dropWhile_joinedUrl ha.unmarked⟩, fun path => ?_⟩
  · rw [Text.Latin.decode_inj]
    exact joinedUrl_inj ha.unmarked hb.unmarked
  · have hpath : { a with path }.Presents pathA queryA :=
      ⟨ha.headers, ha.rawPath, ha.nonempty, ha.unmarked, ha.query⟩
    exact hpath.showsUrl trustA

/-- A query with a question mark of its own, and a scope that presents the same path in bytes and no
query. -/
theorem url_tells_query :
    let bytes (s : String) : Bytes := s.toList.map fun c => UInt8.ofNat c.toNat
    let a : Scope :=
      { ofPath "/a b" with
        rawPath := some (.bytes (bytes "/a%20b")), query := some (.bytes (bytes "x=?")) }
    let b : Scope := { ofPath "/b" with rawPath := some (.bytes (bytes "/a%20b")) }
    a.Presents (bytes "/a%20b") (bytes "x=?") ∧ b.Presents (bytes "/a%20b") [] ∧
      ∃ urlA urlB, a.ShowsUrl false urlA ∧ b.ShowsUrl true urlB ∧ urlA ≠ urlB ∧
        { a with path := b.path }.ShowsUrl false urlA := by
  intro bytes a b
  have ha : a.Presents (bytes "/a%20b") (bytes "x=?") :=
    ⟨rfl, rfl, by decide, by decide, .inl rfl⟩
  have hb : b.Presents (bytes "/a%20b") [] := ⟨rfl, rfl, by decide, by decide, .inr ⟨rfl, rfl⟩⟩
  obtain ⟨urlA, urlB, hurlA, hurlB, htells, -, hpath⟩ := url_tells ha hb false true
  have hquery : bytes "x=?" ≠ [] := by decide
  exact ⟨ha, hb, urlA, urlB, hurlA, hurlB, fun heq => hquery (htells.mp heq).2, hpath b.path⟩

end Scope

end RequestLog
