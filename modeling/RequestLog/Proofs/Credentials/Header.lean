import Mathlib.Data.List.Forall2
import Mathlib.Data.Option.Basic
import RequestLog.Credentials
import RequestLog.Proofs.Text.Parts
import RequestLog.Proofs.Text.Plain

/-!
# What an authorization header is made of

A header that gives credentials is the word basic and a token, with spaces around them (`Carries`),
and the text of the token is a name and a password with a colon between them (`Joins`). Reading
finds exactly these parts: `token?_eq_some_iff` and `ofPair?_eq_some_iff`.
-/

namespace RequestLog.Credentials

open Text

/-- The characters of a token other than the padding. -/
def tokenChars : List Char :=
  "ABCDEFGHIJKLMNOPQRSTUVWXYZabcdefghijklmnopqrstuvwxyz0123456789._~+/-".toList

/-- The word basic, each of its letters in either case. -/
def IsScheme (word : List Char) : Prop :=
  List.Forall₂ (fun c l => c = l ∨ c = l.toUpper) word ['b', 'a', 's', 'i', 'c']

/-- A line end, or nothing. -/
def IsEnding (cs : List Char) : Prop := cs = [] ∨ cs = ['\n']

/-- The header carries a token: spaces, the word basic, at least one space, the characters of the
token and its padding signs, spaces, and a line end or none. -/
structure Carries (header body : List Char) (pads : Nat) : Prop where
  shape : ∃ before scheme between after ending, IsScheme scheme ∧ 1 ≤ between ∧ IsEnding ending ∧
    header = List.replicate before ' ' ++ (scheme ++ (List.replicate between ' ' ++
      (body ++ (List.replicate pads '=' ++ (List.replicate after ' ' ++ ending)))))
  nonempty : body ≠ []
  chars : ∀ c ∈ body, c ∈ tokenChars

/-- The text is a name without a colon, a colon and a password of one line, and a line end or
none. -/
structure Joins (pair : List Char) (c : Credentials) : Prop where
  shape : ∃ ending, IsEnding ending ∧
    pair = c.name.toList ++ ':' :: (c.password.toList ++ ending)
  name : ':' ∉ c.name.toList
  password : '\n' ∉ c.password.toList

/-! ### Line ends -/

/-- What remains after one line end has been removed. -/
theorem exists_ending (cs : List Char) :
    ∃ ending, IsEnding ending ∧ cs = dropFinalNewline cs ++ ending := by
  unfold dropFinalNewline
  split
  · next h => exact ⟨['\n'], .inr rfl, (List.dropLast_append_getLast? _ h).symm⟩
  · exact ⟨[], .inl rfl, (List.append_nil cs).symm⟩

/-- One line end at the end is dropped, and nothing else. -/
theorem dropFinalNewline_append {cs ending : List Char} (hending : IsEnding ending)
    (h : '\n' ∉ cs) : dropFinalNewline (cs ++ ending) = cs := by
  unfold dropFinalNewline
  rcases hending with rfl | rfl
  · rw [List.append_nil, if_neg fun hlast => h (List.mem_of_getLast? hlast)]
  · simp

/-! ### Tokens -/

/-- Among the first 128 characters those of tokens are known one by one. -/
theorem isTokenChar_of_lt :
    ∀ n < 128, isTokenChar (Char.ofNat n) = decide (Char.ofNat n ∈ tokenChars) := by
  decide +kernel

/-- A token has only characters of the first 128. -/
theorem lt_of_isTokenChar {c : Char} (h : isTokenChar c) : c.toNat < 128 := by
  simp only [isTokenChar, Bool.or_eq_true, beq_iff_eq] at h
  rcases h with (((((halnum | rfl) | rfl) | rfl) | rfl) | rfl) | rfl
  · exact lt_of_isAlphanum halnum
  all_goals decide

/-- The characters of a token are those listed. -/
theorem isTokenChar_iff (c : Char) : isTokenChar c ↔ c ∈ tokenChars := by
  by_cases hc : c.toNat < 128
  · have h := isTokenChar_of_lt c.toNat hc
    rw [Char.ofNat_toNat] at h
    rw [h, decide_eq_true_eq]
  · have hascii : tokenChars.all Ascii.isAscii := by decide +kernel
    exact ⟨fun h => (hc (lt_of_isTokenChar h)).elim,
      fun h => (hc (of_decide_eq_true (List.all_eq_true.mp hascii c h))).elim⟩

/-! ### The scheme -/

/-- Among the first 128 characters a letter is small in one way, capital in another, and nothing
else has its small form. -/
theorem toLower_of_lt :
    ∀ n < 128, ['b', 'a', 's', 'i', 'c'].all fun l =>
      decide ((Char.ofNat n).toLower = l ↔ Char.ofNat n = l ∨ Char.ofNat n = l.toUpper) := by
  decide +kernel

/-- A letter of the word basic in lower case comes from that letter in either case. -/
theorem toLower_eq_iff {l : Char} (hl : l ∈ ['b', 'a', 's', 'i', 'c']) (c : Char) :
    c.toLower = l ↔ c = l ∨ c = l.toUpper := by
  by_cases hc : c.toNat < 128
  · have h := of_decide_eq_true (List.all_eq_true.mp (toLower_of_lt c.toNat hc) l hl)
    rwa [Char.ofNat_toNat] at h
  · have hascii : ['b', 'a', 's', 'i', 'c'].all fun d =>
        decide (d.toNat < 128 ∧ d.toUpper.toNat < 128) := by decide
    have hl' := of_decide_eq_true (List.all_eq_true.mp hascii l hl)
    have hsame : c.toLower = c := by
      unfold Char.toLower
      rw [dif_neg fun h => hc (Nat.lt_of_le_of_lt h.2 (by decide))]
    have hlower : c ≠ l := fun h => hc (h ▸ hl'.1)
    have hupper : c ≠ l.toUpper := fun h => hc (h ▸ hl'.2)
    simp [hsame, hlower, hupper]

/-- A scheme does not begin with a blank. -/
theorem head?_scheme_append {scheme rest : List Char} (hscheme : IsScheme scheme) :
    ∀ d ∈ (scheme ++ rest).head?, d ≠ ' ' := by
  cases hscheme with
  | cons hletter _ =>
      intro d hd
      cases hd
      rcases hletter with rfl | rfl <;> decide

/-- The word that names the scheme is the word basic, in whatever letter case. -/
theorem afterScheme?_eq_some_iff {cs rest : List Char} :
    afterScheme? cs = some rest ↔ ∃ scheme, IsScheme scheme ∧ cs = scheme ++ rest := by
  constructor
  · intro h
    unfold afterScheme? at h
    split at h
    · next b a s i c tail =>
        split at h
        · next hword =>
            cases h
            refine ⟨[b, a, s, i, c], ?_, rfl⟩
            simpa [IsScheme, toLower_eq_iff] using hword
        · cases h
    · cases h
  · rintro ⟨scheme, hscheme, rfl⟩
    match scheme, hscheme with
    | [b, a, s, i, c], hscheme =>
        have hword : [b, a, s, i, c].map Char.toLower = ['b', 'a', 's', 'i', 'c'] := by
          simpa [IsScheme, toLower_eq_iff] using hscheme
        exact if_pos hword

/-! ### Headers -/

section Headers

variable {header body : List Char} {pads : Nat}

/-- Where a token is found the header carries it: every part that was passed over is put back in
front of the rest. -/
theorem carries_of_token? (h : token? header = some (body, pads)) : Carries header body pads := by
  simp only [token?, Option.bind_eq_bind, Option.bind_eq_some_iff, Option.guard_eq_some',
    Option.pure_def, Option.some.injEq, Prod.mk.injEq] at h
  obtain ⟨rest, hrest, -, hblanks, -, hbody, -, htail, rfl, rfl⟩ := h
  obtain ⟨scheme, hscheme, hfront⟩ := afterScheme?_eq_some_iff.mp hrest
  obtain ⟨ending, hending, hback⟩ := exists_ending _
  rw [htail, List.nil_append] at hback
  refine ⟨⟨(header.takeWhile (· = ' ')).length, scheme, (rest.takeWhile (· = ' ')).length,
    ((((rest.dropWhile (· = ' ')).dropWhile isTokenChar).dropWhile (· = '=')).takeWhile
      (· = ' ')).length, ending, hscheme, List.length_pos_iff.mpr hblanks, hending, ?_⟩, hbody,
    fun c hc => (isTokenChar_iff c).mp (List.mem_takeWhile_imp hc)⟩
  rw [← hback, replicate_append_dropWhile, replicate_append_dropWhile,
    List.takeWhile_append_dropWhile, replicate_append_dropWhile, ← hfront,
    replicate_append_dropWhile]

/-- The token that a header carries is found: no part begins with a character of the part before
it, so each search ends where the part does. -/
theorem Carries.token?_eq (h : Carries header body pads) : token? header = some (body, pads) := by
  obtain ⟨⟨before, scheme, between, after, ending, hscheme, hbetween, hending, rfl⟩, hbody,
    hchars⟩ := h
  have hend : ∀ d ∈ ending.head?, d = '\n' := by
    rcases hending with rfl | rfl <;> simp [eq_comm]
  have hspaced : ∀ d ∈ (List.replicate after ' ' ++ ending).head?, d = ' ' ∨ d = '\n' :=
    fun d hd => (mem_head?_replicate_append hd).imp_right (hend d)
  have hpadded : ∀ d ∈ (List.replicate pads '=' ++ (List.replicate after ' ' ++ ending)).head?,
      isTokenChar d = false := by
    intro d hd
    rcases (mem_head?_replicate_append hd).imp_right (hspaced d) with rfl | rfl | rfl <;> rfl
  have htoken : ∀ d ∈ body, isTokenChar d = true :=
    fun d hd => (isTokenChar_iff d).mpr (hchars d hd)
  have hbegins : ∀ d ∈ (body ++ (List.replicate pads '=' ++
      (List.replicate after ' ' ++ ending))).head?, d ≠ ' ' := by
    cases body with
    | nil => exact (hbody rfl).elim
    | cons c rest =>
        intro d hd heq
        cases hd
        exact absurd (htoken c List.mem_cons_self) (by rw [heq]; decide)
  have hblanks : List.replicate between ' ' ≠ [] := by
    simpa using Nat.one_le_iff_ne_zero.mp hbetween
  unfold token?
  rw [dropWhile_replicate_append before (head?_scheme_append hscheme),
    afterScheme?_eq_some_iff.mpr ⟨scheme, hscheme, rfl⟩]
  simp only [Option.bind_eq_bind, Option.bind_some]
  rw [takeWhile_replicate_append between hbegins, dropWhile_replicate_append between hbegins,
    takeWhile_run htoken hpadded, dropWhile_run htoken hpadded,
    takeWhile_replicate_append pads fun d hd heq => by simpa [heq] using hspaced d hd,
    dropWhile_replicate_append pads fun d hd heq => by simpa [heq] using hspaced d hd,
    dropWhile_replicate_append after fun d hd heq => by simpa [heq] using hend d hd]
  have hdropped : dropFinalNewline ending = [] :=
    dropFinalNewline_append hending (List.not_mem_nil (a := '\n'))
  simp [guard, hblanks, hbody, hdropped]

/-- A header carries a token exactly where it is found. -/
theorem token?_eq_some_iff : token? header = some (body, pads) ↔ Carries header body pads :=
  ⟨carries_of_token?, Carries.token?_eq⟩

end Headers

/-! ### Pairs -/

/-- A text joins a name and a password exactly if they are found at its first colon. -/
theorem ofPair?_eq_some_iff {pair : List Char} {c : Credentials} :
    ofPair? pair = some c ↔ Joins pair c := by
  constructor
  · intro h
    simp only [ofPair?, Option.bind_eq_bind, Option.bind_eq_some_iff, Option.guard_eq_some',
      Option.pure_def, Option.some.injEq] at h
    obtain ⟨⟨name, rest⟩, hcut, -, hline, rfl⟩ := h
    obtain ⟨rfl, hname⟩ := eq_append_of_cutAt hcut
    obtain ⟨ending, hending, hrest⟩ := exists_ending rest
    refine ⟨⟨ending, hending, ?_⟩, ?_, ?_⟩
    · rw [String.toList_ofList, String.toList_ofList, ← hrest]
    · rwa [String.toList_ofList]
    · rwa [String.toList_ofList]
  · rintro ⟨⟨ending, hending, rfl⟩, hname, hpassword⟩
    have hcut : cutAt ':' (c.name.toList ++ ':' :: (c.password.toList ++ ending)) =
        some (c.name.toList, c.password.toList ++ ending) := cutAt_append hname
    have hdropped := dropFinalNewline_append hending hpassword
    simp [ofPair?, hcut, hdropped, hpassword, guard]

end RequestLog.Credentials
