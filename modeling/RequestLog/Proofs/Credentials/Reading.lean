import RequestLog.Proofs.Build
import RequestLog.Proofs.Credentials.Header
import RequestLog.Proofs.Text.Base64
import RequestLog.Proofs.Text.Utf8

/-!
# Credentials that are read

A header gives a name and a password exactly if it is of the form that `Gives` describes, and no
value of a header makes reading fail: `read_gives_iff`. A header that is written for a name and a
password (`written`) is of this form, so reading gives them back, and the log shows the name:
`written_is_read`.
-/

namespace RequestLog.Credentials

open Text

/-- The header gives the credentials: it carries a token that stands for the bytes of a text, and
that text joins the name and the password. -/
def Gives (header : String) (c : Credentials) : Prop :=
  ∃ body pads pair, Carries header.toList body pads ∧
    Base64.StandsFor body pads (Utf8.encode pair) ∧ Joins pair.toList c

/-! ### Reading -/

/-- A token is read as a text as its digits are, unless it has a flaw that is provided for. -/
theorem decoded_cases {body : List Char} (hbody : ∀ c ∈ body, isTokenChar c) (pads : Nat) :
    (∃ pair, decoded (body ++ List.replicate pads '=') = .ok pair ∧
        (Base64.decode? body pads).bind Utf8.decode? = some pair) ∨
      ∃ flaw, decoded (body ++ List.replicate pads '=') = .error flaw ∧ flaw.isProvidedFor ∧
        (Base64.decode? body pads).bind Utf8.decode? = none := by
  have hchars : ∀ c ∈ body, c.toNat < 128 ∧ c ≠ '=' := by
    refine fun c hc => ⟨lt_of_isTokenChar (hbody c hc), ?_⟩
    rintro rfl
    exact absurd (hbody '=' hc) (by decide)
  unfold decoded
  rcases Base64.read_padded hchars pads with ⟨bytes, hread, hbytes⟩ | ⟨flaw, hread, hflaw, hnone⟩
  · rw [hread, hbytes, Option.bind_some]
    cases hpair : Utf8.decode? bytes with
    | some pair => exact .inl ⟨pair, by simp [Except.mapError, bind, Except.bind, hpair]; rfl, rfl⟩
    | none => exact .inr ⟨.utf8, by simp [Except.mapError, bind, Except.bind, hpair], rfl, rfl⟩
  · rw [hread, hnone]
    refine .inr ⟨.base64 flaw, rfl, ?_, rfl⟩
    cases flaw with
    | notAscii => exact (hflaw rfl).elim
    | loneDigit => rfl
    | unpadded => rfl

/-- No failure is left over, and a text is read as a header. -/
theorem read_eq (v : Value) : read v = .ok (v.text?.bind ofHeader?) := by
  cases v with
  | text header =>
      show read (.text header) = .ok (ofHeader? header)
      simp only [read, ofHeader?, Option.bind_eq_bind]
      cases htoken : token? header.toList with
      | none => rfl
      | some token =>
          obtain ⟨body, pads⟩ := token
          have hbody : ∀ c ∈ body, isTokenChar c := fun c hc =>
            (isTokenChar_iff c).mpr ((token?_eq_some_iff.mp htoken).chars c hc)
          rcases decoded_cases hbody pads with
            ⟨pair, hdecoded, hpair⟩ | ⟨flaw, hdecoded, hflaw, hnone⟩
          · simp only [hdecoded, Option.bind_some, ← Option.bind_assoc, hpair]
          · simp only [hdecoded, hflaw, if_true, Option.bind_some, ← Option.bind_assoc, hnone,
              Option.bind_none]
  | _ => rfl

/-- A header is read as exactly the credentials that it gives. -/
theorem ofHeader?_eq_some_iff {header : String} {c : Credentials} :
    ofHeader? header = some c ↔ Gives header c := by
  simp only [ofHeader?, Option.bind_eq_bind, Option.bind_eq_some_iff]
  constructor
  · rintro ⟨⟨body, pads⟩, htoken, bytes, hbytes, pair, hpair, hc⟩
    rw [← Utf8.decode?_eq_some_iff.mp hpair] at hbytes
    exact ⟨body, pads, pair, token?_eq_some_iff.mp htoken, Base64.decode?_eq_some_iff.mp hbytes,
      ofPair?_eq_some_iff.mp hc⟩
  · rintro ⟨body, pads, pair, hcarries, hstands, hjoins⟩
    exact ⟨(body, pads), token?_eq_some_iff.mpr hcarries, Utf8.encode pair,
      Base64.decode?_eq_some_iff.mpr hstands, pair, Utf8.decode?_eq_some_iff.mpr rfl,
      ofPair?_eq_some_iff.mpr hjoins⟩

/-- **Reading.**  The value of a header is read as credentials exactly if it is a text that gives
them. Every other value, of whatever kind, is read as none, and reading never fails. -/
theorem read_gives_iff (v : Value) :
    read v = .ok (v.text?.bind ofHeader?) ∧
      (∀ c, read v = .ok (some c) ↔ ∃ header, v = .text header ∧ Gives header c) ∧
      (read v = .ok none ↔ ¬ ∃ header c, v = .text header ∧ Gives header c) := by
  have hgives : ∀ c, v.text?.bind ofHeader? = some c ↔
      ∃ header, v = .text header ∧ Gives header c := by
    intro c
    cases v with
    | text header => simp [Value.text?, ofHeader?_eq_some_iff]
    | _ => simp [Value.text?]
  rw [read_eq]
  refine ⟨rfl, fun c => by rw [← hgives, Except.ok.injEq], ?_⟩
  rw [Except.ok.injEq]
  constructor
  · rintro hnone ⟨header, c, hv, hc⟩
    rw [(hgives c).mpr ⟨header, hv, hc⟩] at hnone
    cases hnone
  · intro hnone
    cases hread : v.text?.bind ofHeader? with
    | none => rfl
    | some c =>
        obtain ⟨header, hv, hc⟩ := (hgives c).mp hread
        exact (hnone ⟨header, c, hv, hc⟩).elim

/-! ### Writing -/

/-- A header for credentials: spaces, the word of the scheme, spaces, the token for the name, a
colon and the password, and spaces. -/
def written (before between after : Nat) (scheme : List Char) (c : Credentials) : String :=
  String.ofList (List.replicate before ' ' ++ (scheme ++ (List.replicate between ' ' ++
    (Base64.encode (Utf8.encode (c.name ++ ":" ++ c.password)) ++ List.replicate after ' '))))

/-- The bytes of the name of the header. -/
def headerName : Bytes := Utf8.encode "authorization"

theorem lookupKey_headerName : Headers.lookupKey "authorization" = .ok headerName := by
  decide +kernel

/-- A digit can stand in a token. -/
theorem mem_tokenChars {c : Char} (h : c ∈ Base64.alphabet) : c ∈ tokenChars := by
  have hall : Base64.alphabet.all tokenChars.contains := by decide +kernel
  exact List.contains_iff_mem.mp (List.all_eq_true.mp hall c h)

/-- A header that is written for credentials gives them. -/
theorem gives_written {before between after : Nat} {scheme : List Char} {c : Credentials}
    (hscheme : IsScheme scheme) (hbetween : 1 ≤ between) (hname : ':' ∉ c.name.toList)
    (hpassword : '\n' ∉ c.password.toList) : Gives (written before between after scheme c) c := by
  have hpair : (c.name ++ ":" ++ c.password).toList =
      c.name.toList ++ ':' :: (c.password.toList ++ []) := by simp
  have hbytes : Utf8.encode (c.name ++ ":" ++ c.password) ≠ [] := by
    intro hnil
    have hempty : c.name ++ ":" ++ c.password = "" :=
      Utf8.encode_injective (hnil.trans Utf8.encode_empty.symm)
    rw [hempty] at hpair
    simp at hpair
  refine ⟨_, _, c.name ++ ":" ++ c.password, ?_,
    Base64.decode?_eq_some_iff.mp (Base64.decode?_digits _), ⟨[], .inl rfl, hpair⟩, hname,
    hpassword⟩
  exact {
    shape := ⟨before, scheme, between, after, [], hscheme, hbetween, .inl rfl, by
      simp [written, Base64.encode]⟩
    nonempty := Base64.digits_ne_nil hbytes
    chars := fun d hd => mem_tokenChars (Base64.mem_alphabet_of_mem_digits d hd) }

/-- The first header of the name gives the remote user. -/
theorem evaluate_remoteUser {sight : Sight} {front back : List (Bytes × Bytes)} {value : Bytes}
    (hheaders : sight.request.headers.entries = front ++ (headerName, value) :: back)
    (hfront : ∀ e ∈ front, e.1 ≠ headerName) (argument : Option String) :
    Token.Builtin.remoteUser.evaluate sight argument =
      .ok (Token.Builtin.userOf (some (Latin.decode value))) := by
  have hfilter : (front.filter fun e => e.1 == headerName) = [] := by
    simpa [List.filter_eq_nil_iff] using hfront
  have hget : sight.request.headers.get? "authorization" = .ok (some (Latin.decode value)) := by
    simp [Headers.get?, Headers.getAll, lookupKey_headerName, Headers.valuesAt, hheaders, hfilter,
      Except.map]
  simp only [Token.Builtin.evaluate, hget]
  rfl

/-- **Writing and reading.**  A header that is written for a name without a colon and a password of
one line is read as that name and that password. A request whose first header of its kind is that
text shows the name as its remote user, also where the name is empty. -/
theorem written_is_read {before between after : Nat} {scheme : List Char} {c : Credentials}
    (hscheme : IsScheme scheme) (hbetween : 1 ≤ between) (hname : ':' ∉ c.name.toList)
    (hpassword : '\n' ∉ c.password.toList) :
    ofHeader? (written before between after scheme c) = some c ∧
      read (.text (written before between after scheme c)) = .ok (some c) ∧
      ∀ (sight : Sight) (argument : Option String) (front back : List (Bytes × Bytes))
        (value : Bytes),
        sight.request.headers.entries = front ++ (headerName, value) :: back →
        (∀ e ∈ front, e.1 ≠ headerName) →
        Latin.decode value = written before between after scheme c →
        Token.Builtin.remoteUser.evaluate sight argument = .ok (.text c.name) ∧
          ∀ (σ : Type) (s : σ),
            (Registry.builtin Registry.plain).resolve "remote-user" sight argument s =
              ⟨[], .ok (.text c.name), s⟩ := by
  have hread : ofHeader? (written before between after scheme c) = some c :=
    ofHeader?_eq_some_iff.mpr (gives_written hscheme hbetween hname hpassword)
  refine ⟨hread, by rw [read_eq]; exact congrArg Except.ok hread, ?_⟩
  intro sight argument front back value hheaders hfront hvalue
  have hevaluate : Token.Builtin.remoteUser.evaluate sight argument = .ok (.text c.name) := by
    rw [evaluate_remoteUser hheaders hfront, hvalue]
    simp only [Token.Builtin.userOf, Option.bind_some, hread]
  refine ⟨hevaluate, fun σ s => ?_⟩
  have hfound : (Registry.builtin (Registry.plain (σ := σ))).tokens.get? "remote-user" =
      some (Registry.plain .remoteUser) := Registry.get?_builtin _ _
  unfold Registry.resolve
  rw [hfound]
  dsimp only
  rw [Act.bind_of_ok (Act.attempt_apply _ s)]
  simp only [Act.ask_apply, Registry.plain, hevaluate]
  rfl

/-- A sight of a request with a header of this kind and no other. -/
def sightOf (header : String) : Sight where
  request := {
    method := .text "GET"
    url := .text "/"
    headers := ⟨[(headerName, Utf8.encode header)]⟩ }
  response := {}
  now := ⟨2024, 2, 29, 12, 0, 0, 0, none⟩

/-- A header with the scheme in mixed case and a password that has a colon. -/
theorem written_is_read_mixed :
    ofHeader? " bAsIc  YWRhOmE6Yg== " = some ⟨"ada", "a:b"⟩ ∧
      Token.Builtin.remoteUser.evaluate (sightOf " bAsIc  YWRhOmE6Yg== ") none =
        .ok (.text "ada") := by
  have htext :
      written 1 2 1 ['b', 'A', 's', 'I', 'c'] ⟨"ada", "a:b"⟩ = " bAsIc  YWRhOmE6Yg== " := by
    decide +kernel
  have hscheme : IsScheme ['b', 'A', 's', 'I', 'c'] := by simp [IsScheme]
  obtain ⟨hread, -, hshown⟩ := @written_is_read 1 2 1 _ ⟨"ada", "a:b"⟩ hscheme (by decide)
    (by decide) (by decide)
  rw [htext] at hread hshown
  exact ⟨hread, (hshown (sightOf _) none [] [] _ rfl (by simp) (by decide +kernel)).1⟩

end RequestLog.Credentials
