import Mathlib.Data.List.Forall2
import RequestLog.Proofs.Service.Paging

/-!
# Documents on a page

A page shows each document as it is stored, key by key, but for the identifier, which is shown as a
text (`ShownAs`). Values of the kinds that JSON has are written as they are if they have no more
than so many levels, and not at all otherwise (`Json.plain_eq`). So a page of such documents is
shown whole if all of them are shallow enough, and fails as a whole if one is not; this is the main
statement, `page_of_stored`.
-/

namespace RequestLog.Service

/-! ### Levels -/

namespace Json

mutual

/-- The value and all that it is made of are of the kinds that JSON has. -/
def isJson : Value → Bool
  | .absent | .bool _ | .int _ | .text _ => true
  | .float x => x.isFinite
  | .list items => areJson items
  | .mapping entries => entriesAreJson entries
  | _ => false

/-- All of the values are of the kinds that JSON has. -/
def areJson : List Value → Bool
  | [] => true
  | v :: rest => isJson v && areJson rest

/-- All of the entries have values of the kinds that JSON has. -/
def entriesAreJson : List (String × Value) → Bool
  | [] => true
  | (_, v) :: rest => isJson v && entriesAreJson rest

end

mutual

/-- How many levels a value has: one more than what it is made of. -/
def levels : Value → Nat
  | .list items => levelsOfItems items + 1
  | .mapping entries => levelsOfEntries entries + 1
  | _ => 1

/-- The most levels of several values. -/
def levelsOfItems : List Value → Nat
  | [] => 0
  | v :: rest => max (levels v) (levelsOfItems rest)

/-- The most levels of the values in some entries. -/
def levelsOfEntries : List (String × Value) → Nat
  | [] => 0
  | (_, v) :: rest => max (levels v) (levelsOfEntries rest)

end

/-- What has some levels, if it may have so many. -/
def within {α : Type} (most levels : Nat) (a : α) : Except Fault α :=
  if levels ≤ most then .ok a else .error .tooDeep

/-- What is done to a value that is within bounds changes nothing about the bounds. -/
theorem within_map {α β : Type} (most levels : Nat) (a : α) (f : α → β) :
    (do return f (← within most levels a) : Except Fault β) = within most levels (f a) := by
  unfold within
  split <;> rfl

/-- One level more may be had by what stands one level higher. -/
theorem within_succ {α : Type} (most levels : Nat) (a : α) :
    within (most + 1) (levels + 1) a = within most levels a := by
  simp only [within, Nat.add_le_add_iff_right]

/-- Two values are within bounds if the deeper one is. -/
theorem within_both {α β γ : Type} (most m n : Nat) (a : α) (b : β) (f : α → β → γ) :
    (do return f (← within most m a) (← within most n b) : Except Fault γ) =
      within most (max m n) (f a b) := by
  unfold within
  by_cases hm : m ≤ most
  · by_cases hn : n ≤ most
    · rw [if_pos hm, if_pos hn, if_pos (by omega)]
      rfl
    · rw [if_pos hm, if_neg hn, if_neg (by omega)]
      rfl
  · have hmax : ¬max m n ≤ most := by omega
    rw [if_neg hm, if_neg hmax]
    rfl

mutual

/-- A value of the kinds that JSON has is kept as it is if it has no more levels than it may have,
and cannot be written otherwise. -/
theorem plain_eq (n : Nat) (v : Value) (h : isJson v) : plain n v = within n (levels v) v := by
  cases n with
  | zero =>
      have hlevels : ¬levels v ≤ 0 := by cases v <;> simp [levels]
      rw [within, if_neg hlevels, plain]
  | succ n =>
      cases v with
      | list items =>
          rw [plain, plainItems_eq n items h, levels, within_succ, within_map]
      | mapping entries =>
          rw [plain, plainEntries_eq n entries h, levels, within_succ, within_map]
      | float x =>
          rw [isJson] at h
          simp [plain, levels, within, h]
      | absent | bool | int | text => simp [plain, levels, within]
      | _ => simp [isJson] at h

/-- Items are kept as they are if none has more levels than it may have. -/
theorem plainItems_eq (n : Nat) (items : List Value) (h : areJson items) :
    plainItems n items = within n (levelsOfItems items) items := by
  cases items with
  | nil => simp [plainItems, levelsOfItems, within]
  | cons v rest =>
      rw [areJson, Bool.and_eq_true] at h
      rw [plainItems, plain_eq n v h.1, plainItems_eq n rest h.2, levelsOfItems]
      exact within_both _ _ _ _ _ List.cons

/-- Entries are kept as they are if no value has more levels than it may have. -/
theorem plainEntries_eq (n : Nat) (entries : List (String × Value)) (h : entriesAreJson entries) :
    plainEntries n entries = within n (levelsOfEntries entries) entries := by
  cases entries with
  | nil => simp [plainEntries, levelsOfEntries, within]
  | cons e rest =>
      obtain ⟨k, v⟩ := e
      rw [entriesAreJson, Bool.and_eq_true] at h
      rw [plainEntries, plain_eq n v h.1, plainEntries_eq n rest h.2, levelsOfEntries]
      exact within_both _ _ _ _ _ fun w ws => (k, w) :: ws

end

end Json

/-! ### Documents -/

/-- A document as a store has it: values of the kinds that JSON has, each under a key of its own,
and an identifier that can be presented, of whatever kind it is. -/
inductive IsStored : Value → Prop
  | intro {entries : Fields} (hnodup : (entries.map (·.1)).Nodup)
      (hidentifier : ∀ v, ("_id", v) ∈ entries → ∃ t, v.present = .ok t)
      (hjson : ∀ e ∈ entries, e.1 ≠ "_id" → Json.isJson e.2) : IsStored (.mapping entries)

/-- No value in the document has more levels than can be written; its identifier does not count. -/
inductive IsShallow : Value → Prop
  | intro {entries : Fields}
      (h : ∀ e ∈ entries, e.1 ≠ "_id" → Json.levels e.2 ≤ Json.mostLevels) :
      IsShallow (.mapping entries)

/-- An entry as it is shown: as it is, or the identifier as a text. -/
inductive ShownAs : String × Value → String × Value → Prop
  | same {key : String} {v : Value} (hkey : key ≠ "_id") : ShownAs (key, v) (key, v)
  | identifier {v : Value} {t : String} (ht : v.present = .ok t) :
      ShownAs ("_id", v) ("_id", .text t)

/-- The fields show a document, entry by entry. -/
inductive Shows : Value → Fields → Prop
  | intro {entries fields : Fields} (h : List.Forall₂ ShownAs entries fields) :
      Shows (.mapping entries) fields

/-- The step by which the entries of a document are shown. -/
def shownEntry (e : Value × Value) : Except Fault (Value × Value) :=
  if e.1.text? = some "_id" then do return (e.1, .text (← e.2.present)) else return e

/-- An entry is shown under its own key. -/
theorem ShownAs.key {e e' : String × Value} (h : ShownAs e e') : e'.1 = e.1 := by
  cases h <;> rfl

/-- An entry is shown by the step for it. -/
theorem ShownAs.shownEntry_eq {e e' : String × Value} (h : ShownAs e e') :
    shownEntry (.text e.1, e.2) = .ok (.text e'.1, e'.2) := by
  cases h with
  | same hkey =>
      have hother : ¬(Value.text _).text? = some "_id" := fun htext => hkey (Option.some.inj htext)
      exact if_neg hother
  | @identifier v t ht =>
      have hnamed : (Value.text "_id").text? = some "_id" := rfl
      rw [shownEntry, if_pos hnamed, ht]
      rfl

/-- A document is shown under its own keys. -/
theorem keys_of_shown {entries fields : Fields} (h : List.Forall₂ ShownAs entries fields) :
    fields.map (·.1) = entries.map (·.1) := by
  induction h with
  | nil => rfl
  | cons he _ ih => rw [List.map_cons, List.map_cons, he.key, ih]

/-- Every document that is stored can be shown. -/
theorem IsStored.exists_shows {v : Value} (h : IsStored v) : ∃ fields, Shows v fields := by
  obtain ⟨-, hidentifier, -⟩ := h
  rename_i entries
  suffices hentries : ∀ es : Fields, (∀ v, ("_id", v) ∈ es → ∃ t, v.present = .ok t) →
      ∃ fields, List.Forall₂ ShownAs es fields by
    obtain ⟨fields, hfields⟩ := hentries entries hidentifier
    exact ⟨fields, .intro hfields⟩
  intro es
  induction es with
  | nil => exact fun _ => ⟨[], .nil⟩
  | cons e rest ih =>
      intro hes
      obtain ⟨fields, hfields⟩ := ih fun v hv => hes v (.tail _ hv)
      obtain ⟨key, v⟩ := e
      by_cases hkey : key = "_id"
      · subst hkey
        obtain ⟨t, ht⟩ := hes v (.head _)
        exact ⟨_, .cons (.identifier ht) hfields⟩
      · exact ⟨_, .cons (.same hkey) hfields⟩

/-- What is shown of a document is its fields. -/
theorem Shows.shownDocument_eq {v : Value} {fields : Fields} (h : Shows v fields) :
    shownDocument v = .ok (Document.ofFields fields) := by
  obtain ⟨hentries⟩ := h
  rename_i entries
  change (Document.ofFields entries).mapM shownEntry = .ok (Document.ofFields fields)
  induction hentries with
  | nil => rfl
  | @cons e e' rest rest' he _ ih =>
      change ((.text e.1, e.2) :: Document.ofFields rest).mapM shownEntry = _
      rw [List.mapM_cons, he.shownEntry_eq, ih]
      rfl

/-- No key of a stored document is shown twice. -/
theorem Shows.nodup {v : Value} {fields : Fields} (h : Shows v fields) (hv : IsStored v) :
    (fields.map (·.1)).Nodup := by
  cases h with
  | intro hentries =>
      cases hv with
      | intro hnodup => exact (keys_of_shown hentries).symm ▸ hnodup

/-- What is shown is of a kind that JSON has. -/
theorem ShownAs.isJson {e e' : String × Value} (h : ShownAs e e')
    (hjson : e.1 ≠ "_id" → Json.isJson e.2) : Json.isJson e'.2 := by
  cases h with
  | same hkey => exact hjson hkey
  | identifier => rw [Json.isJson]

/-- What is shown has as many levels as before, and an identifier one. -/
theorem ShownAs.levels_le_iff {e e' : String × Value} (h : ShownAs e e') {n : Nat} (hn : 1 ≤ n) :
    Json.levels e'.2 ≤ n ↔ (e.1 ≠ "_id" → Json.levels e.2 ≤ n) := by
  cases h with
  | same hkey => simp [hkey]
  | identifier => simp [Json.levels, hn]

/-- The fields that show a document can be written if and only if it is shallow. -/
theorem Shows.plainFields_eq {v : Value} {fields : Fields} (h : Shows v fields) (hv : IsStored v) :
    Json.plainFields fields = Json.within Json.mostLevels (Json.levelsOfEntries fields) fields ∧
      (Json.levelsOfEntries fields ≤ Json.mostLevels ↔ IsShallow v) := by
  obtain ⟨hentries⟩ := h
  obtain ⟨-, -, hjson⟩ := hv
  rename_i entries
  have hfields : Json.entriesAreJson fields := by
    induction hentries with
    | nil => rfl
    | cons he _ ih =>
        rw [List.forall_mem_cons] at hjson
        rw [Json.entriesAreJson, Bool.and_eq_true]
        exact ⟨he.isJson hjson.1, ih hjson.2⟩
  have hlevels : Json.levelsOfEntries fields ≤ Json.mostLevels ↔
      ∀ e ∈ entries, e.1 ≠ "_id" → Json.levels e.2 ≤ Json.mostLevels := by
    clear hjson hfields
    induction hentries with
    | nil => simp [Json.levelsOfEntries]
    | cons he _ ih =>
        rw [Json.levelsOfEntries, Nat.max_le, ih, List.forall_mem_cons,
          he.levels_le_iff (by decide)]
  refine ⟨Json.plainEntries_eq _ fields hfields, hlevels.trans ⟨.intro, ?_⟩⟩
  rintro ⟨hshallow⟩
  exact hshallow

/-! ### Pages -/

/-- Where everything fits, all results are given. -/
theorem together_ok {α : Type} (as : List α) : together (as.map fun a => .ok a) = .ok as := by
  induction as with
  | nil => rfl
  | cons a rest ih =>
      rw [List.map_cons, together, ih]
      rfl

/-- Fields with distinct keys are a row as they are. -/
theorem row_ofFields {fields : Fields} (h : (fields.map (·.1)).Nodup) (index : Nat) :
    row index (Document.ofFields fields) = .ok fields := by
  have hentries : ((Document.ofFields fields).map fun e =>
      (fitted ["records", toString index, keyStep e.1, "[key]"] e.1 (textOf e.1)).map
        fun key => (key, e.2)) = fields.map fun e => .ok e := by
    rw [Document.ofFields, List.map_map]
    rfl
  rw [row, hentries, together_ok]
  exact congrArg Except.ok (Table.entries_ofList h)

/-- Fields under distinct keys are rows as they are. -/
theorem together_rows {rows : List Fields} (h : ∀ fields ∈ rows, (fields.map (·.1)).Nodup)
    (start : Nat) :
    together (((rows.map Document.ofFields).zipIdx start).map fun p => row p.2 p.1) = .ok rows := by
  induction rows generalizing start with
  | nil => rfl
  | cons fields rest ih =>
      rw [List.forall_mem_cons] at h
      rw [List.map_cons, List.zipIdx_cons, List.map_cons, together, row_ofFields h.1,
        ih h.2 (start + 1)]
      rfl

/-- A page of some rows. -/
def listing (rows : List Fields) (limit skip : Int) : Value :=
  .mapping [("records", .list (rows.map .mapping)), ("count", .int rows.length),
    ("limit", .int limit), ("skip", .int skip)]

/-- Documents that are stored are shown by rows with distinct keys. -/
theorem exists_rows {documents : List Value} (h : ∀ v ∈ documents, IsStored v) :
    ∃ rows, List.Forall₂ Shows documents rows ∧
      documents.mapM shownDocument = .ok (rows.map Document.ofFields) ∧
      ∀ fields ∈ rows, (fields.map (·.1)).Nodup := by
  induction documents with
  | nil => exact ⟨[], .nil, rfl, nofun⟩
  | cons v rest ih =>
      rw [List.forall_mem_cons] at h
      obtain ⟨fields, hfields⟩ := h.1.exists_shows
      obtain ⟨rows, hrows, hshown, hnodup⟩ := ih h.2
      refine ⟨fields :: rows, .cons hfields hrows, ?_, ?_⟩
      · rw [List.mapM_cons, hfields.shownDocument_eq, hshown]
        rfl
      · rw [List.forall_mem_cons]
        exact ⟨hfields.nodup h.1, hnodup⟩

/-- The rows can be written if all documents are shallow, and only then. -/
theorem plainRows_eq {documents : List Value} {rows : List Fields}
    (hrows : List.Forall₂ Shows documents rows) (h : ∀ v ∈ documents, IsStored v) :
    ((∀ v ∈ documents, IsShallow v) → rows.mapM Json.plainFields = .ok rows) ∧
      ((∃ v ∈ documents, ¬IsShallow v) → rows.mapM Json.plainFields = .error .tooDeep) := by
  induction hrows with
  | nil => exact ⟨fun _ => rfl, by simp⟩
  | @cons v fields rest rows hfields _ ih =>
      rw [List.forall_mem_cons] at h
      obtain ⟨hplain, hlevels⟩ := hfields.plainFields_eq h.1
      obtain ⟨hwhole, hfails⟩ := ih h.2
      rw [List.mapM_cons, hplain, Json.within]
      by_cases hv : IsShallow v
      · rw [if_pos (hlevels.mpr hv)]
        constructor
        · intro hshallow
          rw [hwhole fun v' hv' => hshallow v' (.tail _ hv')]
          rfl
        · rintro ⟨v', hmem, hdeep⟩
          rcases List.mem_cons.mp hmem with rfl | hrest
          · exact absurd hv hdeep
          · rw [hfails ⟨v', hrest, hdeep⟩]
            rfl
      · rw [if_neg fun hle => hv (hlevels.mp hle)]
        exact ⟨fun hshallow => absurd (hshallow v (.head _)) hv, fun _ => rfl⟩

/-- **Pages.**  Documents that are stored are shown on a page, one row for each, if all of them are
shallow; if one of them is not, there is no page. -/
theorem page_of_stored {documents : List Value} (h : ∀ v ∈ documents, IsStored v)
    (limit skip : Int) :
    ∃ rows, List.Forall₂ Shows documents rows ∧
      ((∀ v ∈ documents, IsShallow v) →
        page documents (.int limit) skip = .ok (listing rows limit skip)) ∧
      ((∃ v ∈ documents, ¬IsShallow v) → page documents (.int limit) skip = .error .tooDeep) := by
  obtain ⟨rows, hrows, hshown, hnodup⟩ := exists_rows h
  obtain ⟨hwhole, hfails⟩ := plainRows_eq hrows h
  have hpage : page documents (.int limit) skip = (do
      let written ← rows.mapM Json.plainFields
      return .mapping [("records", .list (written.map .mapping)),
        ("count", .int documents.length), ("limit", .int limit), ("skip", .int skip)]) := by
    unfold page
    rw [hshown]
    change (filled _ (both (together (((rows.map Document.ofFields).zipIdx).map
      fun p => row p.2 p.1)) _) >>= _) = _
    rw [together_rows hnodup]
    rfl
  refine ⟨rows, hrows, fun hshallow => ?_, fun hdeep => ?_⟩
  · rw [hpage, hwhole hshallow, listing, hrows.length_eq]
    rfl
  · rw [hpage, hfails hdeep]
    rfl

end RequestLog.Service
