import RequestLog.Proofs.Store.Bracket
import RequestLog.Proofs.Table
import RequestLog.Proofs.Text.Parts
import RequestLog.Proofs.Text.Plain

/-!
# Which connections are encrypted

An address of a store is written out of its parts: one of two schemes, an authority, perhaps a path,
and perhaps options (`Address.Parts`). The last option of the one name decides whether a connection
is encrypted, else the last one of the other name, else the scheme (`Decides`), and this is what is
read off the address as it is written: `isEncrypted_text`. The main statement is
`options_decide`: nothing else counts, and a connection is opened as the address says.
-/

namespace RequestLog.Store

namespace Address

open Text

/-! ### Addresses as they are written -/

/-- A text that stands for itself, and is not empty. -/
def IsPlain (s : String) : Prop := s ≠ "" ∧ ∀ c ∈ s.toList, isUnreserved c

instance (s : String) : Decidable (IsPlain s) :=
  decidable_of_iff (s ≠ "" ∧ s.toList.all isUnreserved) (and_congr_right' List.all_eq_true)

/-- An option and the value that is chosen for it. -/
structure Choice where
  name : String
  value : String
  name_plain : IsPlain name
  value_plain : IsPlain value

/-- A character that an authority or a path may have: neither a sign that ends it or is for hosts of
a kind, nor a tab or a line end. -/
def isPartChar (c : Char) : Bool := !"/?#[]\t\r\n".toList.contains c

/-- An address in its parts. It has the scheme for encrypted connections, or the other one. -/
structure Parts where
  encrypts : Bool
  authority : String
  path : Option String
  choices : Option (List Choice)
  authority_chars : ∀ c ∈ authority.toList, isPartChar c ∧ Ascii.isAscii c
  path_chars : ∀ p ∈ path, ∀ c ∈ p.toList, isPartChar c

/-- An option as it is written. -/
def Choice.chars (c : Choice) : List Char := c.name.toList ++ '=' :: c.value.toList

namespace Parts

/-- The scheme as it is written. -/
def scheme (p : Parts) : List Char := (if p.encrypts then "mongodb+srv" else "mongodb").toList

/-- What is written of the options. -/
def query (p : Parts) : List Char :=
  p.choices.elim [] fun choices => ['&'].intercalate (choices.map Choice.chars)

/-- What is written behind the authority. -/
def tail (p : Parts) : List Char :=
  p.path.elim [] (fun path => '/' :: path.toList) ++ p.choices.elim [] fun _ => '?' :: p.query

/-- The address as it is written. -/
def text (p : Parts) : String :=
  String.ofList (p.scheme ++ ':' :: '/' :: '/' :: (p.authority.toList ++ p.tail))

/-- The options, if there are any. -/
def options (p : Parts) : List Choice := p.choices.getD []

end Parts

/-! ### What is read of an address -/

/-- A character of a part is not one that separates parts. -/
theorem ne_of_isPartChar {c d : Char} (hc : isPartChar c) (hd : isPartChar d = false) : c ≠ d := by
  rintro rfl
  rw [hc] at hd
  cases hd

/-- What is written of an option. -/
theorem Choice.of_mem_chars {c : Choice} {d : Char} (h : d ∈ c.chars) :
    isUnreserved d ∨ d = '=' := by
  rw [chars, List.mem_append, List.mem_cons] at h
  rcases h with h | h | h
  · exact .inl (c.name_plain.2 d h)
  · exact .inr h
  · exact .inl (c.value_plain.2 d h)

namespace Parts

variable (p : Parts)

/-- What holds of all signs that are written behind an authority. -/
theorem forall_mem_tail {P : Char → Prop} (hpath : ∀ d, isPartChar d → P d)
    (hoption : ∀ d, isUnreserved d → P d) (hsign : ∀ d ∈ ['/', '?', '=', '&'], P d) :
    ∀ d ∈ p.tail, P d := by
  refine List.forall_mem_append.mpr ⟨fun d hd => ?_, fun d hd => ?_⟩
  · cases hp : p.path with
    | none => simp [hp] at hd
    | some path =>
        rw [hp] at hd
        rcases List.mem_cons.mp hd with rfl | hd
        · exact hsign _ (by simp)
        · exact hpath d (p.path_chars path hp d hd)
  · cases hc : p.choices with
    | none => simp [hc] at hd
    | some choices =>
        rw [hc] at hd
        rcases List.mem_cons.mp hd with rfl | hd
        · exact hsign _ (by simp)
        · rw [query, hc] at hd
          rcases mem_intercalate hd with rfl | ⟨piece, hpiece, hd⟩
          · exact hsign _ (by simp)
          · obtain ⟨c, -, rfl⟩ := List.mem_map.mp hpiece
            rcases c.of_mem_chars hd with hd | rfl
            · exact hoption d hd
            · exact hsign _ (by simp)

/-- Nothing of an address is left out. -/
theorem cleaned_text : cleaned p.text = p.text.toList := by
  have hpart : ∀ d, isPartChar d → (!isIgnored d) = true := by
    intro d hd
    simp [isIgnored, ne_of_isPartChar hd (d := '\t') rfl, ne_of_isPartChar hd (d := '\r') rfl,
      ne_of_isPartChar hd (d := '\n') rfl]
  have hoption : ∀ d, isUnreserved d → (!isIgnored d) = true := by
    intro d hd
    simp [isIgnored, ne_of_isUnreserved hd (d := '\t') rfl,
      ne_of_isUnreserved hd (d := '\r') rfl, ne_of_isUnreserved hd (d := '\n') rfl]
  have hscheme : ∀ d ∈ p.scheme ++ [':', '/', '/'], (!isIgnored d) = true := by
    unfold scheme
    cases p.encrypts <;> exact List.all_eq_true.mp (by decide)
  have hall : ∀ d ∈ p.text.toList, (!isIgnored d) = true := by
    have htext : p.text.toList = p.scheme ++ [':', '/', '/'] ++ (p.authority.toList ++ p.tail) := by
      simp [text]
    rw [htext]
    refine List.forall_mem_append.mpr ⟨hscheme, List.forall_mem_append.mpr ⟨?_, ?_⟩⟩
    · exact fun d hd => hpart d (p.authority_chars d hd).1
    · exact p.forall_mem_tail hpart hoption (List.all_eq_true.mp (by decide))
  have hfirst : p.text.toList.dropWhile isControl = p.text.toList := by
    rw [text, String.toList_ofList, scheme]
    cases p.encrypts <;> rfl
  rw [cleaned, hfirst, List.filter_eq_self.mpr hall]

/-- Behind the scheme comes the authority, and what is written behind it. -/
theorem withoutScheme_text :
    withoutScheme p.text.toList = '/' :: '/' :: (p.authority.toList ++ p.tail) := by
  have hcolon : ':' ∉ p.scheme := by
    unfold scheme
    cases p.encrypts <;> decide
  rw [text, String.toList_ofList, withoutScheme, cutAt_append hcolon]
  unfold scheme
  cases p.encrypts <;> rfl

/-- An address is split into its host and what follows. -/
theorem splitHost_text :
    splitHost (withoutScheme p.text.toList) = (p.authority.toList, p.tail) := by
  have hhost : ∀ d ∈ p.authority.toList, (!endsHost d) = true := by
    intro d hd
    have hpart := (p.authority_chars d hd).1
    simp [endsHost, ne_of_isPartChar hpart (d := '/') rfl, ne_of_isPartChar hpart (d := '?') rfl,
      ne_of_isPartChar hpart (d := '#') rfl]
  have htail : ∀ d ∈ p.tail.head?, (!endsHost d) = false := by
    unfold tail
    cases p.path with
    | some path => simp [endsHost]
    | none => cases p.choices <;> simp [endsHost]
  rw [withoutScheme_text, splitHost, takeWhile_run hhost htail,
    dropWhile_run hhost htail]

/-- The authority is of no particular kind. -/
theorem checkBrackets_authority : Host.checkBrackets p.authority.toList = .ok () := by
  have hnone : ∀ d, isPartChar d = false → p.authority.toList.contains d = false := by
    intro d hd
    rw [List.contains_eq_mem, decide_eq_false_iff_not]
    intro hmem
    exact ne_of_isPartChar (p.authority_chars d hmem).1 hd rfl
  rw [Host.checkBrackets, hnone '[' rfl, hnone ']' rfl]

/-- The host of a plain address holds no character that stands for a separator. -/
theorem checkSeparators_authority : Host.checkSeparators p.authority.toList = .ok () := by
  have hbeyond : ∀ r ∈ Host.separatorTable, 0x80 ≤ r.1 := by decide
  have hnone : p.authority.toList.any Host.separatorTable.contains = false := by
    rw [List.any_eq_false]
    intro d hd
    have hascii : d.toNat < 0x80 := of_decide_eq_true (p.authority_chars d hd).2
    rw [Bool.not_eq_true, CharTable.contains, List.any_eq_false]
    intro r hr
    have := hbeyond r hr
    simp only [Bool.and_eq_true, decide_eq_true_eq, not_and, not_le]
    omega
  rw [Host.checkSeparators, hnone]
  rfl

/-- The options are found as they are written. -/
theorem query_text : Address.query p.text = .ok p.query := by
  have hhash : '#' ∉ p.tail := by
    have hall := p.forall_mem_tail (P := (· ≠ '#')) (fun d hd => ne_of_isPartChar hd rfl)
      (fun d hd => ne_of_isUnreserved hd rfl) (by simp)
    exact fun hmem => hall '#' hmem rfl
  have hquestion : (cutAt '?' p.tail).elim [] (·.2) = p.query := by
    have hpath : '?' ∉ p.path.elim [] (fun path => '/' :: path.toList) := by
      cases hp : p.path with
      | none => simp
      | some path =>
          intro hmem
          rcases List.mem_cons.mp hmem with h | h
          · cases h
          · exact ne_of_isPartChar (p.path_chars path hp _ h) rfl rfl
    cases hc : p.choices with
    | none =>
        rw [tail, hc, Option.elim_none, List.append_nil, cutAt_eq_none_iff.mpr hpath, query, hc]
        rfl
    | some choices =>
        rw [tail, hc, Option.elim_some, cutAt_append hpath]
        rfl
  rw [Address.query, cleaned_text, splitHost_text]
  simp only [checkBrackets_authority, checkSeparators_authority, cutAt_eq_none_iff.mpr hhash]
  exact congrArg Except.ok hquestion

end Parts

/-! ### The options that are read -/

/-- An option as it is compared, in lower case. -/
def Choice.lowered (c : Choice) : String × String := (c.name.toLower, c.value.toLower)

/-- What is written of an option is read as it is. -/
theorem Choice.field_chars (c : Choice) :
    Percent.field? .dropped c.chars = some (c.name, c.value) := by
  have hname : '=' ∉ c.name.toList :=
    fun h => ne_of_isUnreserved (c.name_plain.2 _ h) (d := '=') rfl rfl
  have hvalue : c.value.toList ≠ [] := by
    rw [ne_eq, String.toList_eq_nil_iff]
    exact c.value_plain.1
  have hfield : ∀ value, value ≠ [] →
      Percent.field? .dropped (c.name.toList ++ '=' :: value) =
        some (Percent.decode c.name.toList, Percent.decode value) := by
    intro value hne
    cases value with
    | nil => exact absurd rfl hne
    | cons d rest => simp [Percent.field?, cutAt_append hname]
  rw [chars, hfield _ hvalue, Percent.decode_of_isUnreserved c.name_plain.2,
    Percent.decode_of_isUnreserved c.value_plain.2, String.ofList_toList, String.ofList_toList]

/-- Plain texts have the small letters of ASCII. -/
theorem lower_of_isPlain {s : String} (h : IsPlain s) : Text.lower s = s.toLower :=
  lower_of_isAscii fun c hc => isAscii_of_isUnreserved (h.2 c hc)

namespace Parts

variable (p : Parts)

/-- The fields of the query are the options. -/
theorem fields_query :
    Percent.fields .dropped p.query = p.options.map fun c => (c.name, c.value) := by
  have hempty : Percent.fields .dropped [] = [] := by
    simp [Percent.fields, Percent.field?]
  unfold query options
  cases p.choices with
  | none => exact hempty
  | some choices =>
      cases choices with
      | nil => exact hempty
      | cons c rest =>
          have hpieces : ∀ piece ∈ (c :: rest).map Choice.chars, '&' ∉ piece := by
            intro piece hpiece hmem
            obtain ⟨d, -, rfl⟩ := List.mem_map.mp hpiece
            rcases d.of_mem_chars hmem with h | h
            · exact ne_of_isUnreserved h (d := '&') rfl rfl
            · cases h
          rw [Option.elim_some, Percent.fields, List.splitOn_intercalate '&' hpieces (by simp),
            List.filterMap_map, Option.getD_some]
          exact List.filterMap_eq_map_iff_forall_eq_some.mpr fun d _ => d.field_chars

/-- **Options.**  They are read off the address as they are written, in lower case. -/
theorem options_text : Address.options p.text = .ok (p.options.map Choice.lowered) := by
  rw [Address.options, p.query_text]
  refine congrArg Except.ok ?_
  rw [p.fields_query, List.map_map]
  refine List.map_congr_left fun c _ => ?_
  simp only [Function.comp_apply, lower_of_isPlain c.name_plain, lower_of_isPlain c.value_plain]
  rfl

end Parts

/-! ### What decides -/

/-- The last of several options that has a name, in any letter case. -/
def IsLast (name : String) (choices : List Choice) (c : Choice) : Prop :=
  c.name.toLower = name ∧
    ∃ before after, choices = before ++ c :: after ∧ ∀ d ∈ after, d.name.toLower ≠ name

/-- The options and the scheme decide whether the connection is encrypted: the last option for it
under its own name, else the last one under its older name, else the scheme. -/
inductive Decides (encrypts : Bool) (choices : List Choice) : Bool → Prop
  | tls {c : Choice} (h : IsLast "tls" choices c) :
      Decides encrypts choices (c.value.toLower == "true")
  | ssl {c : Choice} (htls : ∀ d ∈ choices, d.name.toLower ≠ "tls") (h : IsLast "ssl" choices c) :
      Decides encrypts choices (c.value.toLower == "true")
  | scheme (htls : ∀ d ∈ choices, d.name.toLower ≠ "tls")
      (hssl : ∀ d ∈ choices, d.name.toLower ≠ "ssl") : Decides encrypts choices encrypts

section Last

variable {name : String} {choices choices' : List Choice}

theorem last?_lowered : Percent.last? name (choices.map Choice.lowered) =
    (choices.reverse.find? fun c => c.name.toLower = name).map (·.value.toLower) := by
  rw [Percent.last?, ← List.map_reverse, List.find?_map, Option.map_map]
  rfl

/-- From the end, the first option of a name is its last one. -/
theorem find?_reverse_eq_some_iff {c : Choice} :
    choices.reverse.find? (fun d => d.name.toLower = name) = some c ↔ IsLast name choices c := by
  rw [List.find?_eq_some_iff_append, decide_eq_true_eq, IsLast, split_reverse_iff]
  simp only [Bool.not_eq_true', decide_eq_false_iff_not, ne_eq]

/-- The value that is found is that of the last option of the name, in small letters. -/
theorem last?_eq_some_iff {value : String} :
    Percent.last? name (choices.map Choice.lowered) = some value ↔
      ∃ c, IsLast name choices c ∧ c.value.toLower = value := by
  simp only [last?_lowered, Option.map_eq_some_iff, find?_reverse_eq_some_iff]

/-- There is no last option of a name if there is none. -/
theorem last?_eq_none_iff :
    Percent.last? name (choices.map Choice.lowered) = none ↔
      ∀ c ∈ choices, c.name.toLower ≠ name := by
  simp [last?_lowered]

/-- Among options of distinct names the last one that has a name is the only one. -/
theorem isLast_iff_of_nodup (hnodup : (choices.map (·.name.toLower)).Nodup) {c : Choice} :
    IsLast name choices c ↔ c ∈ choices ∧ c.name.toLower = name := by
  constructor
  · rintro ⟨hname, before, after, rfl, -⟩
    exact ⟨by simp, hname⟩
  · rintro ⟨hmem, hname⟩
    obtain ⟨before, after, rfl⟩ := List.append_of_mem hmem
    refine ⟨hname, before, after, rfl, fun d hd heq => ?_⟩
    rw [List.map_append, List.map_cons] at hnodup
    have hbehind := (List.nodup_cons.mp (List.nodup_append.mp hnodup).2.1).1
    exact hbehind (List.mem_map.mpr ⟨d, hd, heq.trans hname.symm⟩)

end Last

/-- The option is one of the two that decide. -/
def Choice.counts (c : Choice) : Bool := c.name.toLower == "tls" || c.name.toLower == "ssl"

section Decision

variable {encrypts b : Bool} {choices choices' : List Choice}

/-- What the options decide is decided by the last one under the first name, or else under the
second, or else by the scheme. -/
theorem decides_iff : Decides encrypts choices b ↔
    (match (Percent.last? "tls" (choices.map Choice.lowered)).or
        (Percent.last? "ssl" (choices.map Choice.lowered)) with
      | some value => value == "true"
      | none => encrypts) = b := by
  constructor
  · rintro (⟨h⟩ | ⟨htls, h⟩ | ⟨htls, hssl⟩)
    · rw [last?_eq_some_iff.mpr ⟨_, h, rfl⟩]
      rfl
    · rw [last?_eq_none_iff.mpr htls, last?_eq_some_iff.mpr ⟨_, h, rfl⟩]
      rfl
    · rw [last?_eq_none_iff.mpr htls, last?_eq_none_iff.mpr hssl]
      rfl
  · rintro rfl
    cases htls : Percent.last? "tls" (choices.map Choice.lowered) with
    | some value =>
        obtain ⟨c, hc, rfl⟩ := last?_eq_some_iff.mp htls
        exact .tls hc
    | none =>
        have hnone := last?_eq_none_iff.mp htls
        cases hssl : Percent.last? "ssl" (choices.map Choice.lowered) with
        | some value =>
            obtain ⟨c, hc, rfl⟩ := last?_eq_some_iff.mp hssl
            exact .ssl hnone hc
        | none => exact .scheme hnone (last?_eq_none_iff.mp hssl)

/-- Options that do not count make no difference. -/
theorem decides_congr_of_counts
    (h : choices.filter Choice.counts = choices'.filter Choice.counts) :
    Decides encrypts choices b ↔ Decides encrypts choices' b := by
  have hlast : ∀ name ∈ ["tls", "ssl"], ∀ l : List Choice,
      Percent.last? name (l.map Choice.lowered) =
        Percent.last? name ((l.filter Choice.counts).map Choice.lowered) := by
    intro name hname l
    rw [last?_lowered, last?_lowered, ← List.filter_reverse, List.find?_filter]
    congr 2
    funext c
    rcases List.mem_pair.mp hname with rfl | rfl <;>
      simp +contextual [Choice.counts]
  rw [decides_iff, decides_iff, hlast "tls" (by simp), hlast "ssl" (by simp), h,
    ← hlast "tls" (by simp), ← hlast "ssl" (by simp)]

/-- The order of options of distinct names makes no difference. -/
theorem Decides.perm (hnodup : (choices.map (·.name.toLower)).Nodup)
    (hperm : choices.Perm choices') (h : Decides encrypts choices b) :
    Decides encrypts choices' b := by
  have hlast : ∀ {name : String} {c : Choice}, IsLast name choices c → IsLast name choices' c := by
    intro name c hc
    rw [isLast_iff_of_nodup hnodup] at hc
    rw [isLast_iff_of_nodup ((hperm.map _).nodup_iff.mp hnodup), ← hperm.mem_iff]
    exact hc
  have hnone : ∀ {name : String}, (∀ c ∈ choices, c.name.toLower ≠ name) →
      ∀ c ∈ choices', c.name.toLower ≠ name := fun h c hc => h c (hperm.mem_iff.mpr hc)
  cases h with
  | tls h => exact .tls (hlast h)
  | ssl htls h => exact .ssl (hnone htls) (hlast h)
  | scheme htls hssl => exact .scheme (hnone htls) (hnone hssl)

end Decision

/-- The scheme as it is written tells which one it is. -/
theorem Parts.isPrefixOf_text (p : Parts) :
    encryptedScheme.toList.isPrefixOf p.text.toList = p.encrypts := by
  rw [text, String.toList_ofList, scheme]
  cases p.encrypts <;> rfl

/-- **Encryption.**  What is read off an address is what its options and its scheme decide. -/
theorem isEncrypted_text (p : Parts) {b : Bool} :
    isEncrypted p.text = .ok b ↔ Decides p.encrypts p.options b := by
  have hread : isEncrypted p.text = .ok
      (match (Percent.last? "tls" (p.options.map Choice.lowered)).or
          (Percent.last? "ssl" (p.options.map Choice.lowered)) with
        | some value => value == "true"
        | none => p.encrypts) := by
    rw [isEncrypted, p.options_text]
    change (match (Percent.last? "tls" (p.options.map Choice.lowered)).or
        (Percent.last? "ssl" (p.options.map Choice.lowered)) with
      | some value => Except.ok (value == "true")
      | none => .ok (encryptedScheme.toList.isPrefixOf p.text.toList)) = _
    rw [p.isPrefixOf_text]
    split <;> rfl
  rw [hread, Except.ok.injEq, decides_iff]

end Address

variable {σ α : Type}

/-! ### Connections that are opened -/

/-- The connection that a call asks for. -/
def Call.connection? : Call → Option Connection
  | connect o => some o
  | _ => none

/-- The connections that are asked for. -/
def connections (events : List Event) : List Connection :=
  (events.filterMap Event.call?).filterMap Call.connection?

/-- The calls of what was said are those of the events. -/
theorem calls_exchanges (client : Client σ) (events : List Event) (s : σ) :
    (exchanges client events s).map (·.call) = events.filterMap Event.call? := by
  unfold exchanges
  generalize events.filterMap Event.call? = calls
  induction calls generalizing s with
  | nil => rfl
  | cons c rest ih => rw [Client.converse, List.map_cons, ih]

/-- An operation asks for one connection at most, and for just the one that it has to open. -/
theorem Brackets.connections {opening : Except Fault Connection}
    {work : List Exchange → Except Fault α → Prop} {xs : List Exchange} {r : Except Fault α}
    (h : Brackets opening work xs r)
    (hwork : ∀ inner r, work inner r → ∀ x ∈ inner, x.call.isInner) :
    (xs.map (·.call)).filterMap Call.connection? = opening.toOption.toList := by
  cases h with
  | unopened h =>
      rw [h]
      rfl
  | refused h =>
      rw [h]
      rfl
  | @closed o reply inner r answer h hinner =>
      have hnone : (inner.map (·.call)).filterMap Call.connection? = [] := by
        rw [List.filterMap_eq_nil_iff]
        intro c hc
        obtain ⟨x, hx, rfl⟩ := List.mem_map.mp hc
        have hcall := hwork _ _ hinner x hx
        cases hx : x.call with
        | connect o =>
            rw [hx] at hcall
            cases hcall
        | _ => rfl
      rw [h, List.map_append, List.map_cons, List.filterMap_append, List.filterMap_cons, hnone]
      rfl

/-- An insert is connected as its target says, or not at all. -/
theorem connections_insert (access : Access σ) (t : Target) (documents : List Document) (s : σ) :
    connections (insert access t documents s).events =
      (connection access t).toOption.toList := by
  rw [connections, ← calls_exchanges access.client _ s]
  exact (does_insert access t documents s).2.connections fun _ _ => Works.isInner

/-- A search is connected as its target says, or not at all. -/
theorem connections_find (access : Access σ) (t : Target) (q : Query) (s : σ) :
    connections (find access t q s).events = (connection access t).toOption.toList := by
  rw [connections, ← calls_exchanges access.client _ s]
  exact (does_find access t q s).2.connections fun _ _ => Works.isInner

namespace Address

/-- **Options decide.**  Whether a connection is encrypted is read off its address in any case, and
is what the options and the scheme decide, so that neither the other options make a difference, nor
the authority and the path, nor the order of options of distinct names. Inserting and finding ask
for a connection that is encrypted just as the address says, if no part of the target is missing,
and else for none. -/
theorem options_decide (p : Parts) :
    ∃ encrypted, isEncrypted p.text = .ok encrypted ∧
      (∀ b, Decides p.encrypts p.options b ↔ b = encrypted) ∧
      (∀ q : Parts, q.encrypts = p.encrypts →
        q.options.filter Choice.counts = p.options.filter Choice.counts →
          isEncrypted q.text = .ok encrypted) ∧
      (∀ q : Parts, q.encrypts = p.encrypts → p.options.Perm q.options →
        (p.options.map (·.name.toLower)).Nodup → isEncrypted q.text = .ok encrypted) ∧
      ∀ {σ : Type} (access : Access σ) (t : Target), t.address = .text p.text → ∀ s : σ,
        (∀ documents, connections (insert access t documents s).events =
          if t.isComplete then [⟨t.address, access.timeout, encrypted⟩] else []) ∧
        ∀ query, connections (find access t query s).events =
          if t.isComplete then [⟨t.address, access.timeout, encrypted⟩] else [] := by
  obtain ⟨encrypted, hdecides⟩ : ∃ b, Decides p.encrypts p.options b := ⟨_, decides_iff.mpr rfl⟩
  have hread : isEncrypted p.text = .ok encrypted := (isEncrypted_text p).mpr hdecides
  refine ⟨encrypted, hread, fun b => ?_, fun q hencrypts hcounts => ?_,
    fun q hencrypts hperm hnodup => ?_, fun access t haddress s => ?_⟩
  · rw [← isEncrypted_text, hread, Except.ok.injEq, eq_comm]
  · rw [isEncrypted_text, hencrypts, decides_congr_of_counts hcounts]
    exact hdecides
  · rw [isEncrypted_text, hencrypts]
    exact hdecides.perm hnodup hperm
  · have hconnection : (connection access t).toOption.toList =
        if t.isComplete then [⟨t.address, access.timeout, encrypted⟩] else [] := by
      have haddressed : Store.encrypted (.text p.text) = .ok encrypted := hread
      unfold connection
      rw [haddress]
      cases t.isComplete with
      | false => rfl
      | true =>
          rw [haddressed]
          rfl
    exact ⟨fun documents => (connections_insert ..).trans hconnection,
      fun query => (connections_find ..).trans hconnection⟩

/-- Among options that contradict each other the last one decides that has the name first asked for,
in whatever letter case. -/
theorem options_decide_mixed :
    ∃ p : Parts, p.text = "mongodb://u:p@a:1,b/logs?w=1&TLS=false&Tls=TRUE&ssl=false" ∧
      p.encrypts = false ∧ isEncrypted p.text = .ok true := by
  let w : Choice := ⟨"w", "1", by decide, by decide⟩
  let off : Choice := ⟨"TLS", "false", by decide, by decide⟩
  let on : Choice := ⟨"Tls", "TRUE", by decide, by decide⟩
  let older : Choice := ⟨"ssl", "false", by decide, by decide⟩
  let p : Parts :=
    { encrypts := false, authority := "u:p@a:1,b", path := some "logs"
      choices := some [w, off, on, older]
      authority_chars := fun c hc => Bool.and_eq_true_iff.mp
        (List.all_eq_true.mp (by decide :
          ("u:p@a:1,b".toList.all fun c => isPartChar c && Text.Ascii.isAscii c) = true) c hc)
      path_chars := fun path h => Option.some.inj h ▸
        List.all_eq_true.mp (by decide : "logs".toList.all isPartChar = true) }
  obtain ⟨encrypted, hread, hdecides, -⟩ := options_decide p
  have hlast : IsLast "tls" p.options on :=
    ⟨by decide +kernel, [w, off], [older], rfl, by
      rintro d hd
      obtain rfl := List.mem_singleton.mp hd
      decide +kernel⟩
  have hon : Decides p.encrypts p.options ("TRUE".toLower == "true") := .tls hlast
  have hvalue : ("TRUE".toLower == "true") = true := by decide +kernel
  rw [hvalue] at hon
  exact ⟨p, by decide +kernel, rfl, ((hdecides true).mp hon) ▸ hread⟩

end Address

end RequestLog.Store
