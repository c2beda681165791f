import Mathlib.Data.List.Forall2
import Mathlib.Data.List.Perm.Subperm
import RequestLog.Proofs.Table
import RequestLog.Value.Equality

/-!
# Values that are equal

Equal values stand for the same thing (`Value.Equals`): the same number, whichever kind of number
each of them is; the same text, bytes or moment; sequences of one kind with equal values at each
place; or mappings with equal values under the same keys, in any order (`mapping_equals_iff`). The
main statement is `same_iff_equals`: the test for equality holds of just these. What is no number,
or known only by how it presents itself, equals nothing; a value without such a part equals itself
(`equals_self`).
-/

namespace RequestLog.Value

/-! ### Absence -/

/-- The test for absence fails for whatever is there. -/
theorem isAbsent_eq_false_iff {v : Value} : v.isAbsent = false ↔ v ≠ .absent := by
  cases v <;> simp [isAbsent]

/-- Not all entries are absent if one of them carries a value. -/
theorem all_isAbsent_eq_false_iff {κ : Type} {entries : List (κ × Value)} :
    (entries.all fun e => e.2.isAbsent) = false ↔ ∃ key v, (key, v) ∈ entries ∧ v ≠ .absent := by
  rw [List.all_eq_false]
  constructor
  · rintro ⟨⟨key, v⟩, hmem, hv⟩
    exact ⟨key, v, hmem, isAbsent_eq_false_iff.mp (by simpa using hv)⟩
  · rintro ⟨key, v, hmem, hv⟩
    exact ⟨(key, v), hmem, by simp [isAbsent_eq_false_iff.mpr hv]⟩

/-! ### Numbers -/

/-- How much a number is: so many of the smallest positive fraction, or without end. -/
inductive Extent where
  | finite (units : Int)
  | infinite (negative : Bool)

/-- How many of the smallest positive fraction make one. -/
def unitsOfOne : Int := Nat.pow 2 (-Binary64.leastExponent).toNat

/-- How much a value is, if it is a number. -/
def extent? : Value → Option Extent
  | bool b => some (.finite (if b then unitsOfOne else 0))
  | int n => some (.finite (n * unitsOfOne))
  | float (.finite s m e) => some (.finite (Binary64.units s m e))
  | float (.infinite s) => some (.infinite s)
  | _ => none

/-- How much a number is. -/
def Numeric.extent? : Numeric → Option Extent
  | .int n => some (.finite (n * unitsOfOne))
  | .float x => (Value.float x).extent?

/-- The extent of a value is that of the number that it stands for. -/
theorem extent?_eq (v : Value) : v.extent? = v.numeric?.bind Numeric.extent? := by
  cases v with
  | bool b =>
      cases b with
      | false => exact congrArg (some ∘ Extent.finite) (Int.zero_mul unitsOfOne).symm
      | true => exact congrArg (some ∘ Extent.finite) (Int.one_mul unitsOfOne).symm
  | _ => rfl

/-- The common unit of all fractions is not too coarse for one. -/
theorem unitsOfOne_ne_zero : unitsOfOne ≠ 0 := by
  have hpow (k : Nat) : (Nat.pow 2 k : Int) ≠ 0 :=
    Int.natCast_ne_zero.mpr (Nat.pos_iff_ne_zero.mp (Nat.two_pow_pos k))
  exact hpow _

/-- A fraction is an integer if both are as many units. -/
theorem isInt_finite (s : Bool) (m : Nat) (e n : Int) :
    (Binary64.finite s m e).isInt n = true ↔ n * unitsOfOne = Binary64.units s m e :=
  beq_iff_eq.trans eq_comm

/-- Numbers are the same if they are as much. -/
theorem Numeric.same_iff (a b : Numeric) :
    a.same b = true ↔ a.extent?.isSome ∧ a.extent? = b.extent? := by
  have hint (n k : Int) : n * unitsOfOne = k * unitsOfOne ↔ n = k :=
    Int.mul_eq_mul_right_iff unitsOfOne_ne_zero
  cases a with
  | int n =>
      cases b with
      | int k => simp [Numeric.same, Numeric.extent?, hint]
      | float y =>
          cases y with
          | finite => simp [Numeric.same, Numeric.extent?, Value.extent?, isInt_finite]
          | infinite | nan => simp [Numeric.same, Numeric.extent?, Value.extent?, Binary64.isInt]
  | float x =>
      cases b with
      | int k =>
          cases x with
          | finite =>
              rw [Numeric.same, isInt_finite, eq_comm]
              simp [Numeric.extent?, Value.extent?]
          | infinite | nan => simp [Numeric.same, Numeric.extent?, Value.extent?, Binary64.isInt]
      | float y =>
          cases x <;> cases y <;>
            simp [Numeric.same, Numeric.extent?, Value.extent?, Binary64.same]

/-! ### Equality -/

/-- The two values stand for the same thing. Moments with an offset do if they are the same instant,
and others if their clocks show the same; mappings if they have as many entries and each of the
first has an equal one under its key in the second. -/
inductive Equals : Value → Value → Prop
  | absent : Equals .absent .absent
  | number {v w : Value} {x : Extent} (hv : v.extent? = some x) (hw : w.extent? = some x) :
      Equals v w
  | text (s : String) : Equals (.text s) (.text s)
  | bytes {v w : Value} {b : Bytes} (hv : v.bytes? = some b) (hw : w.bytes? = some b) : Equals v w
  | instant {m m' : Moment} {x y : Int} (hm : m.offset = some x) (hm' : m'.offset = some y)
      (h : m.localInstant - x = m'.localInstant - y) : Equals (.moment m) (.moment m')
  | clock {m m' : Moment} (hm : m.offset = none) (hm' : m'.offset = none)
      (h : m.localInstant = m'.localInstant) : Equals (.moment m) (.moment m')
  | list {xs ys : List Value} (h : List.Forall₂ Equals xs ys) : Equals (.list xs) (.list ys)
  | tuple {xs ys : List Value} (h : List.Forall₂ Equals xs ys) : Equals (.tuple xs) (.tuple ys)
  | mapping {es fs : Fields} (hsize : es.length = fs.length)
      (hkeys : ∀ e ∈ es, e.1 ∈ fs.map (·.1))
      (hvalues : ∀ e ∈ es, ∀ w, fs.lookup e.1 = some w → Equals e.2 w) :
      Equals (.mapping es) (.mapping fs)

/-- The value is made of others. -/
def isCollection : Value → Bool
  | list _ | tuple _ | mapping _ => true
  | _ => false

section Cases

variable {v w : Value} {xs : List Value} {es fs : Fields}

/-- Only a list equals a list, and it does so item by item. -/
theorem equals_list_iff :
    Equals (.list xs) w ↔ ∃ ys, w = .list ys ∧ List.Forall₂ Equals xs ys := by
  constructor
  · intro h
    cases h with
    | list hitems => exact ⟨_, rfl, hitems⟩
    | number hv => cases hv
    | bytes hv => cases hv
  · intro h
    obtain ⟨ys, rfl, hitems⟩ := h
    exact .list hitems

/-- Only a tuple equals a tuple, and it does so item by item. -/
theorem equals_tuple_iff :
    Equals (.tuple xs) w ↔ ∃ ys, w = .tuple ys ∧ List.Forall₂ Equals xs ys := by
  constructor
  · intro h
    cases h with
    | tuple hitems => exact ⟨_, rfl, hitems⟩
    | number hv => cases hv
    | bytes hv => cases hv
  · intro h
    obtain ⟨ys, rfl, hitems⟩ := h
    exact .tuple hitems

/-- Only a mapping equals a mapping: it has as many keys and equal values under each. -/
theorem equals_mapping_iff :
    Equals (.mapping es) w ↔ ∃ fs, w = .mapping fs ∧ es.length = fs.length ∧
      (∀ e ∈ es, e.1 ∈ fs.map (·.1)) ∧ ∀ e ∈ es, ∀ w, fs.lookup e.1 = some w → e.2.Equals w := by
  constructor
  · intro h
    cases h with
    | mapping hsize hkeys hvalues => exact ⟨_, rfl, hsize, hkeys, hvalues⟩
    | number hv => cases hv
    | bytes hv => cases hv
  · intro h
    obtain ⟨fs, rfl, hsize, hkeys, hvalues⟩ := h
    exact .mapping hsize hkeys hvalues

/-- A list is tested against a list item by item, and differs from all else. -/
theorem same_list_iff : (list xs).same w = true ↔ ∃ ys, w = .list ys ∧ sameItems xs ys = true := by
  cases w <;> simp [same]

/-- A tuple is tested against a tuple item by item, and differs from all else. -/
theorem same_tuple_iff :
    (tuple xs).same w = true ↔ ∃ ys, w = .tuple ys ∧ sameItems xs ys = true := by
  cases w <;> simp [same]

/-- A mapping is tested against a mapping key by key, and differs from all else. -/
theorem same_mapping_iff :
    (mapping es).same w = true ↔
      ∃ fs, w = .mapping fs ∧ es.length = fs.length ∧ sameEntries es fs = true := by
  cases w <;> simp [same]

/-- The test of moments finds those that are equal. -/
theorem same_moment_iff {m m' : Moment} : m.same m' = true ↔ Equals (.moment m) (.moment m') := by
  unfold Moment.same
  constructor
  · intro h
    split at h
    · next x y hx hy => exact .instant hx hy (beq_iff_eq.mp h)
    · next hx hy => exact .clock hx hy (beq_iff_eq.mp h)
    · cases h
  · intro h
    cases h with
    | instant hm hm' h => simp [hm, hm', h]
    | clock hm hm' h => simp [hm, hm', h]
    | number hv => cases hv
    | bytes hv => cases hv

/-- Values without parts that are found to be the same are equal. -/
theorem equals_of_sameAtom (h : v.sameAtom w = true) : v.Equals w := by
  unfold sameAtom at h
  split at h
  · next a b hv hw =>
    obtain ⟨hsome, heq⟩ := (Numeric.same_iff a b).mp h
    obtain ⟨x, hx⟩ := Option.isSome_iff_exists.mp hsome
    refine .number (x := x) ?_ ?_
    · rw [extent?_eq, hv, Option.bind_some, hx]
    · rw [extent?_eq, hw, Option.bind_some, ← heq, hx]
  · split at h
    · next hv hw => exact .bytes hv (beq_iff_eq.mp h ▸ hw)
    · split at h
      · exact .absent
      · exact beq_iff_eq.mp h ▸ .text _
      · exact same_moment_iff.mp h
      · cases h
    · cases h
  · cases h

/-- What holds bytes stands for no number. -/
theorem numeric?_of_bytes? {b : Bytes} (h : v.bytes? = some b) : v.numeric? = none := by
  cases v with
  | bytes | buffer => rfl
  | _ => cases h

/-- Values without parts that are equal are found to be the same. -/
theorem sameAtom_of_equals (hv : v.isCollection = false) (h : v.Equals w) :
    v.sameAtom w = true := by
  cases h with
  | absent => rfl
  | number hx hy =>
      rw [extent?_eq] at hx hy
      obtain ⟨a, ha, hxa⟩ := Option.bind_eq_some_iff.mp hx
      obtain ⟨b, hb, hyb⟩ := Option.bind_eq_some_iff.mp hy
      simp only [sameAtom, ha, hb]
      exact (Numeric.same_iff a b).mpr ⟨hxa ▸ rfl, hxa.trans hyb.symm⟩
  | text s => exact beq_self_eq_true s
  | bytes hx hy =>
      simp only [sameAtom, numeric?_of_bytes? hx, numeric?_of_bytes? hy, hx, hy]
      exact beq_self_eq_true _
  | instant hm hm' h => exact same_moment_iff.mpr (.instant hm hm' h)
  | clock hm hm' h => exact same_moment_iff.mpr (.clock hm hm' h)
  | list | tuple | mapping => cases hv

end Cases

/-! ### The test for equality -/

mutual

/-- **Equality.**  The test for equality holds of values that stand for the same thing, and of no
others. -/
theorem same_iff_equals (v w : Value) : v.same w = true ↔ v.Equals w := by
  -- All but the collections are compared at once; for these the recursion is that of the test.
  have hatom (hv : v.isCollection = false) : v.sameAtom w = true ↔ v.Equals w :=
    ⟨equals_of_sameAtom, sameAtom_of_equals hv⟩
  cases v with
  | list xs => simp only [same_list_iff, equals_list_iff, sameItems_iff xs]
  | tuple xs => simp only [same_tuple_iff, equals_tuple_iff, sameItems_iff xs]
  | mapping es => simp only [same_mapping_iff, equals_mapping_iff, sameEntries_iff es]
  | _ => exact hatom rfl

/-- The test of two lists of items finds those that are equal item by item. -/
theorem sameItems_iff (xs ys : List Value) :
    sameItems xs ys = true ↔ List.Forall₂ Equals xs ys := by
  cases xs with
  | nil => rw [sameItems, List.isEmpty_iff, List.forall₂_nil_left_iff]
  | cons x xs =>
      cases ys with
      | nil => simp [sameItems]
      | cons y ys =>
          rw [sameItems, Bool.and_eq_true, same_iff_equals x y, sameItems_iff xs ys,
            List.forall₂_cons]

/-- The test of two lists of entries finds those that have equal values under each key. -/
theorem sameEntries_iff (es fs : Fields) :
    sameEntries es fs = true ↔ (∀ e ∈ es, e.1 ∈ fs.map (·.1)) ∧
      ∀ e ∈ es, ∀ w, fs.lookup e.1 = some w → e.2.Equals w := by
  cases es with
  | nil => simp [sameEntries]
  | cons e es =>
      obtain ⟨k, v⟩ := e
      rw [sameEntries, Bool.and_eq_true, sameEntries_iff es fs, List.forall_mem_cons,
        List.forall_mem_cons, ← lookup_isSome_iff]
      cases fs.lookup k with
      | none => simp
      | some w => simp [same_iff_equals v w, and_left_comm]

end

/-! ### Mappings and keys -/

/-- Two mappings that have each key once are equal if they have the same keys and equal values under
each. -/
theorem mapping_equals_iff {es fs : Fields} (hes : (es.map (·.1)).Nodup)
    (hfs : (fs.map (·.1)).Nodup) :
    Equals (.mapping es) (.mapping fs) ↔ (∀ key, key ∈ es.map (·.1) ↔ key ∈ fs.map (·.1)) ∧
      ∀ key v w, es.lookup key = some v → fs.lookup key = some w → v.Equals w := by
  constructor
  · intro h
    obtain ⟨_, heq, hsize, hkeys, hvalues⟩ := equals_mapping_iff.mp h
    obtain rfl := Value.mapping.inj heq
    have hsubset : es.map (·.1) ⊆ fs.map (·.1) := by
      intro key hkey
      obtain ⟨e, he, rfl⟩ := List.mem_map.mp hkey
      exact hkeys e he
    -- As many keys, each of them a key of the other, leave none over.
    have hperm : (es.map (·.1)).Perm (fs.map (·.1)) :=
      (List.subperm_of_subset hes hsubset).perm_of_length_le (by simp [hsize])
    exact ⟨fun _ => hperm.mem_iff, fun key v w hv => hvalues (key, v) (mem_of_lookup hv) w⟩
  · intro h
    obtain ⟨hkeys, hvalues⟩ := h
    have hperm : (es.map (·.1)).Perm (fs.map (·.1)) :=
      (List.perm_ext_iff_of_nodup hes hfs).mpr hkeys
    refine .mapping (by simpa using hperm.length_eq) (fun e he => ?_) fun e he w => ?_
    · exact (hkeys e.1).mp (List.mem_map_of_mem he)
    · exact hvalues e.1 e.2 w (lookup_of_mem hes he)

/-! ### Values that equal themselves -/

mutual

/-- Nothing in the value is a fraction that is no number, or known only by how it presents itself,
and no mapping in it has a key twice. -/
def isComparable : Value → Bool
  | float x => x != .nan
  | list items | tuple items => areComparable items
  | mapping entries => decide (entries.map (·.1)).Nodup && entriesAreComparable entries
  | thing .. => false
  | _ => true

/-- All of the values are comparable. -/
def areComparable : List Value → Bool
  | [] => true
  | v :: rest => isComparable v && areComparable rest

/-- All of the entries have comparable values. -/
def entriesAreComparable : Fields → Bool
  | [] => true
  | (_, v) :: rest => isComparable v && entriesAreComparable rest

end

mutual

/-- A comparable value equals itself. -/
theorem equals_self (v : Value) (h : v.isComparable) : v.Equals v := by
  cases v with
  | absent => exact .absent
  | bool b => exact .number rfl rfl
  | int n => exact .number rfl rfl
  | float x =>
      cases x with
      | finite => exact .number rfl rfl
      | infinite => exact .number rfl rfl
      | nan => cases h
  | text s => exact .text s
  | bytes b => exact .bytes rfl rfl
  | buffer b => exact .bytes rfl rfl
  | moment m =>
      cases hm : m.offset with
      | none => exact .clock hm hm rfl
      | some x => exact .instant hm hm rfl
  | list items => exact .list (forall₂_equals_self items h)
  | tuple items => exact .tuple (forall₂_equals_self items h)
  | mapping entries =>
      rw [isComparable, Bool.and_eq_true, decide_eq_true_eq] at h
      have hself : ∀ e ∈ entries, e.2.Equals e.2 := entry_equals_self entries h.2
      refine (mapping_equals_iff h.1 h.1).mpr ⟨fun _ => Iff.rfl, fun key v w hv hw => ?_⟩
      obtain rfl : v = w := Option.some.inj (hv.symm.trans hw)
      exact hself (key, v) (mem_of_lookup hv)
  | thing => cases h

/-- Comparable items are equal to themselves. -/
theorem forall₂_equals_self (items : List Value) (h : areComparable items) :
    List.Forall₂ Equals items items := by
  cases items with
  | nil => exact .nil
  | cons v rest =>
      rw [areComparable, Bool.and_eq_true] at h
      exact .cons (equals_self v h.1) (forall₂_equals_self rest h.2)

/-- Comparable entries have values that are equal to themselves. -/
theorem entry_equals_self (entries : Fields) (h : entriesAreComparable entries) :
    ∀ e ∈ entries, e.2.Equals e.2 := by
  cases entries with
  | nil => exact nofun
  | cons e rest =>
      obtain ⟨k, v⟩ := e
      rw [entriesAreComparable, Bool.and_eq_true] at h
      exact List.forall_mem_cons.mpr ⟨equals_self v h.1, entry_equals_self rest h.2⟩

end

end RequestLog.Value
