import RequestLog.Proofs.Table
import RequestLog.Record

/-!
# Faults that have a wording, values that have a literal

A fault has a wording (`Fault.IsWorded`) unless it was reported from outside the library without one
(`isWorded_iff`). A value has a literal (`Value.IsWritable`) unless an object in it fails to give
its own, or an integer in it has too many digits (`Value.isWritable_int_iff`). A record has one
exactly if each of its values does (`Record.literal_ok_iff`); those of plain values
(`Value.IsPlain`) always do.
-/

namespace RequestLog

namespace Fault

/-- Asking for the wording of the fault gives one. -/
def IsWorded (f : Fault) : Prop := ∃ wording, f.message = .ok wording

end Fault

/-- Where the result is a fault, it is one that has a wording. -/
def FailsInWords {α : Type} (x : Except Fault α) : Prop := ∀ f, x = .error f → f.IsWorded

section FailsInWords

variable {α β : Type}

/-- A value is no fault at all. -/
theorem failsInWords_ok (a : α) : FailsInWords (.ok a : Except Fault α) := nofun

/-- A fault that has a wording is such a result. -/
theorem failsInWords_error {f : Fault} (h : f.IsWorded) :
    FailsInWords (.error f : Except Fault α) := by
  intro g hg
  cases hg
  exact h

/-- Two steps fail in words if each of them does. -/
theorem FailsInWords.bind {x : Except Fault α} {k : α → Except Fault β} (hx : FailsInWords x)
    (hk : ∀ a, FailsInWords (k a)) : FailsInWords (x >>= k) := by
  cases x with
  | error f => exact failsInWords_error (hx f rfl)
  | ok a => exact hk a

/-- What is done to a value makes no difference to the faults. -/
theorem FailsInWords.map {x : Except Fault α} (hx : FailsInWords x) (g : α → β) :
    FailsInWords (x.map g) := by
  cases x with
  | error f => exact failsInWords_error (hx f rfl)
  | ok a => exact failsInWords_ok (g a)

end FailsInWords

/-! ### Literals -/

namespace Value

/-- The value can be written so that its kind shows. -/
def IsWritable (v : Value) : Prop := ∃ s, v.literal = .ok s

/-- An integer can be written if it does not have too many digits. -/
theorem isWritable_int_iff {n : Int} :
    (int n).IsWritable ↔ (Nat.toDigits 10 n.natAbs).length ≤ Numeral.mostDigits := by
  unfold IsWritable
  rw [literal, integerLiteral]
  split <;> simp_all

/-- A record keeps the value as it is, and the value can be written. -/
structure IsPlain (v : Value) : Prop where
  isSimple : v.isSimple
  isWritable : v.IsWritable

/-- Nothing is a plain value. -/
theorem isPlain_absent : absent.IsPlain := ⟨rfl, _, rfl⟩

/-- A text is a plain value. -/
theorem isPlain_text (s : String) : (text s).IsPlain := ⟨rfl, _, rfl⟩

/-- A text that may be missing is a plain value. -/
theorem isPlain_ofText? (s : Option String) : (ofText? s).IsPlain := by
  cases s with
  | none => exact isPlain_absent
  | some s => exact isPlain_text s

/-- A plain value may stand in the place of a missing one. -/
theorem IsPlain.orElse {v w : Value} (hv : v.IsPlain) (hw : w.IsPlain) : (v.orElse w).IsPlain := by
  unfold Value.orElse
  split
  · exact hv
  · exact hw

/-- The entries of a mapping can be written if the values in it can. -/
theorem entryLiterals_ok_iff {entries : Fields} :
    (∃ literals, entryLiterals entries = .ok literals) ↔ ∀ e ∈ entries, e.2.IsWritable := by
  induction entries with
  | nil => simp [entryLiterals]
  | cons e rest ih =>
      obtain ⟨k, v⟩ := e
      rw [List.forall_mem_cons, ← ih, IsWritable, entryLiterals]
      cases v.literal with
      | error f => simp [bind, Except.bind]
      | ok s => cases entryLiterals rest <;> simp [bind, Except.bind, pure, Except.pure]

/-- A value that a record keeps as it is has a literal, or fails to give one in words. -/
theorem failsInWords_literal {v : Value} (h : v.isSimple) : FailsInWords v.literal := by
  cases v with
  | int n =>
      rw [literal, integerLiteral]
      split
      · exact failsInWords_ok _
      · exact failsInWords_error ⟨_, rfl⟩
  | absent | bool | float | text | moment => exact failsInWords_ok _
  | _ => cases h

/-- Entries with such values have literals, or fail to give one in words. -/
theorem failsInWords_entryLiterals {entries : Fields} (h : ∀ e ∈ entries, e.2.isSimple) :
    FailsInWords (entryLiterals entries) := by
  induction entries with
  | nil => exact failsInWords_ok _
  | cons e rest ih =>
      rw [List.forall_mem_cons] at h
      rw [entryLiterals]
      exact (failsInWords_literal h.1).bind fun _ => (ih h.2).bind fun _ => failsInWords_ok _

end Value

/-- A record of such values has a literal, or fails to give one in words. -/
theorem Record.failsInWords_literal {r : Record} (h : ∀ e ∈ r.fields.entries, e.2.isSimple) :
    FailsInWords r.literal := by
  rw [literal, Value.literal]
  exact ((Value.failsInWords_entryLiterals h).bind fun _ => failsInWords_ok _).bind fun _ =>
    failsInWords_ok _

/-- A record can be written exactly if each of its values can. -/
theorem Record.literal_ok_iff {r : Record} :
    (∃ s, r.literal = .ok s) ↔ ∀ e ∈ r.fields.entries, e.2.IsWritable := by
  rw [← Value.entryLiterals_ok_iff, literal, Value.literal]
  cases Value.entryLiterals r.fields.entries <;> simp [bind, Except.bind, pure, Except.pure]

end RequestLog
