/-!
# Tables in order of arrival

A table holds one entry for each of its names, in the order in which the names first arrived. A
name that arrives again keeps its place and takes the new entry (`get?_insert`, `keys_insert`).
-/

namespace RequestLog

/-- Named entries in order, no name twice. -/
structure Table (α : Type) where
  entries : List (String × α)
  nodup : (entries.map (·.1)).Nodup

namespace Table

variable {α β : Type}

/-- The entries after `name` has taken `entry`. -/
def insertIn (name : String) (entry : α) : List (String × α) → List (String × α)
  | [] => [(name, entry)]
  | (k, e) :: rest =>
    if k = name then (k, entry) :: rest else (k, e) :: insertIn name entry rest

/-- Inserting adds the name at the end unless it is there. -/
theorem keys_insertIn (name : String) (entry : α) (entries : List (String × α)) :
    (insertIn name entry entries).map (·.1) =
      if name ∈ entries.map (·.1) then entries.map (·.1) else entries.map (·.1) ++ [name] := by
  induction entries with
  | nil => simp [insertIn]
  | cons head rest ih =>
    obtain ⟨k, e⟩ := head
    by_cases h : k = name
    · simp [insertIn, h]
    · have h' : ¬name = k := fun e => h e.symm
      simp only [insertIn, h, if_false, List.map_cons, ih, List.mem_cons, h', false_or]
      split <;> simp

/-- Inserting keeps the names distinct. -/
theorem nodup_insertIn (name : String) (entry : α) {entries : List (String × α)}
    (h : (entries.map (·.1)).Nodup) : ((insertIn name entry entries).map (·.1)).Nodup := by
  rw [keys_insertIn]
  split
  · exact h
  · rename_i hn
    refine List.nodup_append.2 ⟨h, by simp, ?_⟩
    intro a ha b hb
    rw [List.mem_singleton] at hb
    subst hb
    exact fun e => hn (e ▸ ha)

/-- No entries. -/
def empty : Table α := ⟨[], List.nodup_nil⟩

instance : Inhabited (Table α) := ⟨empty⟩

/-- The names in their order. -/
def keys (t : Table α) : List String := t.entries.map (·.1)

/-- Gives `name` an entry: at its place, or at the end if the name is new. -/
def insert (t : Table α) (name : String) (entry : α) : Table α :=
  ⟨insertIn name entry t.entries, nodup_insertIn name entry t.nodup⟩

/-- The entry of a name. -/
def get? (t : Table α) (name : String) : Option α := t.entries.lookup name

/-- The name has an entry. -/
def contains (t : Table α) (name : String) : Bool := (t.get? name).isSome

/-- A table of pairs: a name that comes again keeps its first place and takes the last entry. -/
def ofList (pairs : List (String × α)) : Table α :=
  pairs.foldl (fun t p => t.insert p.1 p.2) empty

/-- The entries that `p` holds of. -/
def filter (t : Table α) (p : String × α → Bool) : Table α :=
  ⟨t.entries.filter p, t.nodup.sublist ((List.filter_sublist (p := p)).map _)⟩

/-- The same names with other entries. -/
def map (t : Table α) (f : α → β) : Table β :=
  ⟨t.entries.map fun e => (e.1, f e.2), by simpa [Function.comp_def] using t.nodup⟩

/-- The names after an insertion. -/
theorem keys_insert (t : Table α) (name : String) (entry : α) :
    (t.insert name entry).keys = if name ∈ t.keys then t.keys else t.keys ++ [name] :=
  keys_insertIn name entry t.entries

/-- An insertion changes the entry of its own name only. -/
theorem get?_insert (t : Table α) (name other : String) (entry : α) :
    (t.insert name entry).get? other = if other = name then some entry else t.get? other := by
  suffices h : ∀ entries : List (String × α), (insertIn name entry entries).lookup other =
      if other = name then some entry else entries.lookup other from h _
  intro entries
  induction entries with
  | nil =>
    by_cases h : other = name
    · simp [insertIn, h]
    · simp [insertIn, List.lookup_cons, h, beq_eq_false_iff_ne.2 h]
  | cons head rest ih =>
    obtain ⟨k, e⟩ := head
    by_cases hk : k = name
    · subst hk
      by_cases h : other = k
      · subst h
        simp [insertIn]
      · simp [insertIn, List.lookup_cons, h, beq_eq_false_iff_ne.2 h]
    · by_cases h : other = name
      · subst h
        have hk' : ¬other = k := fun e => hk e.symm
        simp [insertIn, hk, List.lookup_cons, beq_eq_false_iff_ne.2 hk', ih]
      · simp only [insertIn, hk, if_false, List.lookup_cons, ih, h]

end Table

end RequestLog
