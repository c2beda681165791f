import Mathlib.Data.List.Induction
import RequestLog.Table

/-!
# Tables of pairs

The names of a table that is made of pairs stand in the order in which they first came
(`Table.keys_ofList`), and each has the entry that it came with last (`Table.get?_ofList`). Pairs
with distinct names are themselves the entries (`Table.entries_ofList`).
-/

namespace RequestLog

/-! ### The first and the last of a list -/

section EraseDups

variable {α : Type} [DecidableEq α]

/-- Only the first of each kind are kept: a new one stands at the end, and one that is there already
changes nothing. -/
theorem eraseDups_concat (as : List α) (a : α) :
    (as ++ [a]).eraseDups = if a ∈ as then as.eraseDups else as.eraseDups ++ [a] := by
  have hself : [a].eraseDups = [a] := by simp [List.eraseDups_cons]
  rw [List.eraseDups_append]
  by_cases h : a ∈ as
  · simp [List.removeAll, h]
  · simp [List.removeAll, h, hself]

/-- What has no repetition is the first of its kind. -/
theorem eraseDups_of_nodup {as : List α} (h : as.Nodup) : as.eraseDups = as := by
  induction as using List.reverseRecOn with
  | nil => rfl
  | append_singleton as a ih =>
      obtain ⟨has, -, hnew⟩ := List.nodup_append.mp h
      have ha : a ∉ as := fun hmem => hnew a hmem a (by simp) rfl
      rw [eraseDups_concat, if_neg ha, ih has]

end EraseDups

/-- A list is split at an element from its end as it is from its beginning. -/
theorem split_reverse_iff {α : Type} {as : List α} {a : α} {p : α → Prop} :
    (∃ after before, as.reverse = after ++ a :: before ∧ ∀ b ∈ after, p b) ↔
      ∃ before after, as = before ++ a :: after ∧ ∀ b ∈ after, p b := by
  constructor
  · intro h
    obtain ⟨after, before, hsplit, hafter⟩ := h
    have has : as = before.reverse ++ a :: after.reverse := by
      rw [← List.reverse_reverse as, hsplit]
      simp
    exact ⟨_, _, has, fun b hb => hafter b (List.mem_reverse.mp hb)⟩
  · intro h
    obtain ⟨before, after, rfl, hafter⟩ := h
    exact ⟨after.reverse, before.reverse, by simp, fun b hb => hafter b (List.mem_reverse.mp hb)⟩

/-! ### Entries and their names -/

section Lookup

variable {α : Type} {entries : List (String × α)} {name : String}

/-- A name is found if some entry has it. -/
theorem lookup_isSome_iff : (entries.lookup name).isSome ↔ name ∈ entries.map (·.1) := by
  induction entries with
  | nil => simp
  | cons e rest ih =>
      rw [List.lookup_cons, List.map_cons, List.mem_cons]
      by_cases h : name = e.1
      · simp [h]
      · simp [beq_eq_false_iff_ne.mpr h, h, ih]

/-- An entry is found under its name if the names are distinct. -/
theorem lookup_of_mem {a : α} (hnodup : (entries.map (·.1)).Nodup) (h : (name, a) ∈ entries) :
    entries.lookup name = some a := by
  induction entries with
  | nil => cases h
  | cons head rest ih =>
      rw [List.map_cons, List.nodup_cons] at hnodup
      rcases List.mem_cons.mp h with rfl | hrest
      · exact List.lookup_cons_self
      · have hne : name ≠ head.1 := by
          rintro rfl
          exact hnodup.1 (List.mem_map.mpr ⟨_, hrest, rfl⟩)
        rw [List.lookup_cons, beq_eq_false_iff_ne.mpr hne]
        exact ih hnodup.2 hrest

theorem mem_of_lookup {a : α} (h : entries.lookup name = some a) : (name, a) ∈ entries := by
  obtain ⟨before, behind, rfl, -⟩ := List.lookup_eq_some_iff.mp h
  simp

end Lookup

/-- Entries that are changed each under its own name are found under the same names. -/
theorem lookup_map {α β : Type} (f : String → α → β) (entries : List (String × α)) (name : String) :
    (entries.map fun e => (e.1, f e.1 e.2)).lookup name = (entries.lookup name).map (f name) := by
  induction entries with
  | nil => rfl
  | cons e rest ih =>
      rw [List.map_cons, List.lookup_cons, List.lookup_cons]
      by_cases h : name = e.1
      · subst h
        simp
      · rw [beq_eq_false_iff_ne.mpr h]
        exact ih

/-! ### Tables -/

namespace Table

variable {α : Type}

/-- A new name is inserted at the end. -/
theorem insertIn_of_not_mem {name : String} {entries : List (String × α)}
    (h : name ∉ entries.map (·.1)) (entry : α) :
    insertIn name entry entries = entries ++ [(name, entry)] := by
  induction entries with
  | nil => rfl
  | cons head rest ih =>
      rw [List.map_cons, List.mem_cons, not_or] at h
      have hne : head.1 ≠ name := fun heq => h.1 heq.symm
      rw [insertIn, if_neg hne, ih h.2]
      rfl

/-- The table of one more pair. -/
theorem ofList_concat (pairs : List (String × α)) (p : String × α) :
    ofList (pairs ++ [p]) = (ofList pairs).insert p.1 p.2 := by
  rw [ofList, List.foldl_append]
  rfl

/-- A table of pairs with distinct names has just these pairs as its entries. -/
theorem entries_ofList {pairs : List (String × α)} (h : (pairs.map (·.1)).Nodup) :
    (ofList pairs).entries = pairs := by
  induction pairs using List.reverseRecOn with
  | nil => rfl
  | append_singleton pairs p ih =>
      rw [List.map_append, List.nodup_append] at h
      obtain ⟨hnodup, -, hdistinct⟩ := h
      have hentries : (ofList pairs).entries = pairs := ih hnodup
      have hnew : p.1 ∉ pairs.map (·.1) := fun hmem => hdistinct p.1 hmem p.1 (by simp) rfl
      calc (ofList (pairs ++ [p])).entries
          _ = insertIn p.1 p.2 (ofList pairs).entries := by rw [ofList_concat]; rfl
          _ = pairs ++ [p] := by rw [hentries, insertIn_of_not_mem hnew]

/-- The names of a table of pairs stand in the order in which they first came. -/
theorem keys_ofList (pairs : List (String × α)) :
    (ofList pairs).keys = (pairs.map (·.1)).eraseDups := by
  induction pairs using List.reverseRecOn with
  | nil => rfl
  | append_singleton pairs p ih =>
      rw [ofList_concat, keys_insert, ih, List.map_append, List.map_singleton, eraseDups_concat]
      simp only [List.mem_eraseDups]

/-- Each name of a table of pairs has the entry that it came with last. -/
theorem get?_ofList (pairs : List (String × α)) (name : String) :
    (ofList pairs).get? name = pairs.reverse.lookup name := by
  induction pairs using List.reverseRecOn with
  | nil => rfl
  | append_singleton pairs p ih =>
      rw [ofList_concat, get?_insert, ih, List.reverse_concat, List.lookup_cons]
      by_cases h : name = p.1
      · simp [h]
      · rw [if_neg h, beq_eq_false_iff_ne.mpr h]

/-- A name has no entry exactly if it is none of the names. -/
theorem get?_eq_none_iff {t : Table α} {name : String} : t.get? name = none ↔ name ∉ t.keys := by
  rw [get?, keys, ← lookup_isSome_iff, Option.not_isSome_iff_eq_none]

/-- An entry is one of a table exactly if it is found under its name. -/
theorem get?_eq_some_iff {t : Table α} {name : String} {a : α} :
    t.get? name = some a ↔ (name, a) ∈ t.entries :=
  ⟨mem_of_lookup, lookup_of_mem t.nodup⟩

/-- Each entry of a table of pairs is one of the pairs. -/
theorem mem_of_mem_ofList {pairs : List (String × α)} {e : String × α}
    (h : e ∈ (ofList pairs).entries) : e ∈ pairs := by
  have hlookup : pairs.reverse.lookup e.1 = some e.2 := by
    rw [← get?_ofList, get?_eq_some_iff]
    exact h
  exact List.mem_reverse.mp (mem_of_lookup hlookup)

/-- The entry is the one that the name comes with last among the pairs. -/
def IsLast (pairs : List (String × α)) (name : String) (a : α) : Prop :=
  ∃ before after, pairs = before ++ (name, a) :: after ∧ ∀ p ∈ after, p.1 ≠ name

theorem get?_ofList_eq_some_iff {pairs : List (String × α)} {name : String} {a : α} :
    (ofList pairs).get? name = some a ↔ IsLast pairs name a := by
  rw [get?_ofList, List.lookup_eq_some_iff, split_reverse_iff]
  simp only [IsLast, bne_iff_ne, ne_comm (a := name)]

end Table

end RequestLog
