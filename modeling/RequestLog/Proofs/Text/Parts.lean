import Mathlib.Data.List.Basic
import Mathlib.Data.List.TakeWhile
import RequestLog.Text.Blank
import RequestLog.Text.Cut

/-!
# The parts of a text

A text is taken apart into runs of one kind, at a character, or into pieces between separators, and
is put together again of what was found. The lemmas about runs hold of lists of any kind, as bytes
are taken apart like characters. Trimming leaves the core of a text: `trimBy_eq_iff`.
-/

namespace RequestLog.Text

section Runs

variable {α : Type} {p : α → Bool} {front back l : List α} {a b : α}

/-- A run of one kind is taken up to where another kind begins. -/
theorem takeWhile_run (hfront : ∀ a ∈ front, p a) (hback : ∀ a ∈ back.head?, p a = false) :
    (front ++ back).takeWhile p = front := by
  rw [List.takeWhile_append_of_pos hfront]
  cases back with
  | nil => simp
  | cons a rest => simp [hback a rfl]

/-- What remains behind a run begins where another kind does. -/
theorem dropWhile_run (hfront : ∀ a ∈ front, p a) (hback : ∀ a ∈ back.head?, p a = false) :
    (front ++ back).dropWhile p = back := by
  rw [List.dropWhile_append_of_pos hfront]
  cases back with
  | nil => rfl
  | cons a rest => simp [hback a rfl]

/-- What follows a run begins with another kind. -/
theorem head?_dropWhile (h : a ∈ (l.dropWhile p).head?) : p a = false := by
  have hfirst := List.head?_dropWhile_not p l
  rw [Option.mem_def.mp h] at hfirst
  exact hfirst

/-- The first element is the repeated one, or the first one behind. -/
theorem mem_head?_replicate_append {n : Nat} (h : b ∈ (List.replicate n a ++ back).head?) :
    b = a ∨ b ∈ back.head? := by
  cases n with
  | zero => exact .inr (by simpa using h)
  | succ n => exact .inl (by simpa [List.replicate_succ, eq_comm] using h)

variable [DecidableEq α]

/-- Repeated elements are taken up to the first other one. -/
theorem takeWhile_replicate_append (n : Nat) (hback : ∀ b ∈ back.head?, b ≠ a) :
    (List.replicate n a ++ back).takeWhile (· = a) = List.replicate n a :=
  takeWhile_run (fun b hb => by simpa using List.eq_of_mem_replicate hb) (by simpa using hback)

/-- Repeated elements are dropped up to the first other one. -/
theorem dropWhile_replicate_append (n : Nat) (hback : ∀ b ∈ back.head?, b ≠ a) :
    (List.replicate n a ++ back).dropWhile (· = a) = back :=
  dropWhile_run (fun b hb => by simpa using List.eq_of_mem_replicate hb) (by simpa using hback)

/-- Repeated elements and what follows them are the whole. -/
theorem replicate_append_dropWhile (a : α) (l : List α) :
    List.replicate (l.takeWhile (· = a)).length a ++ l.dropWhile (· = a) = l := by
  have hrepeated : l.takeWhile (· = a) = List.replicate (l.takeWhile (· = a)).length a :=
    List.eq_replicate_iff.mpr ⟨rfl, fun b hb => by simpa using List.mem_takeWhile_imp hb⟩
  rw [← hrepeated, List.takeWhile_append_dropWhile]

end Runs

/-! ### Pieces -/

/-- What stands in joined pieces is the separator or stands in a piece. -/
theorem mem_intercalate {α : Type} {x d : α} {pieces : List (List α)}
    (h : d ∈ [x].intercalate pieces) : d = x ∨ ∃ piece ∈ pieces, d ∈ piece := by
  induction pieces with
  | nil => simp at h
  | cons piece rest ih =>
      cases rest with
      | nil => exact .inr ⟨piece, List.mem_cons_self, by simpa using h⟩
      | cons next rest =>
          rw [List.intercalate_cons_cons, List.mem_append, List.mem_append,
            List.mem_singleton] at h
          rcases h with (h | h) | h
          · exact .inr ⟨piece, List.mem_cons_self, h⟩
          · exact .inl h
          · rcases ih h with h | ⟨other, hother, h⟩
            · exact .inl h
            · exact .inr ⟨other, List.mem_cons_of_mem piece hother, h⟩

/-- What stands before a character that a text is cut at. -/
theorem cutAt_elim_eq_iff {c : Char} {cs before : List Char} :
    (cutAt c cs).elim cs (·.1) = before ↔
      ∃ after, cs = before ++ after ∧ c ∉ before ∧ ∀ d ∈ after.head?, d = c := by
  constructor
  · rintro rfl
    cases h : cutAt c cs with
    | none => exact ⟨[], by simp, cutAt_eq_none_iff.mp h, by simp⟩
    | some p =>
        obtain ⟨hsplit, hfront⟩ := eq_append_of_cutAt h
        exact ⟨c :: p.2, hsplit, hfront, by simp⟩
  · rintro ⟨after, rfl, hbefore, hafter⟩
    cases after with
    | nil =>
        rw [List.append_nil, cutAt_eq_none_iff.mpr hbefore]
        rfl
    | cons d rest =>
        obtain rfl := hafter d rfl
        rw [cutAt_append hbefore]
        rfl

/-! ### Texts without what surrounds them -/

/-- The core of a text: what is around it is of a kind, and none of its own ends is. -/
def IsCore (p : Char → Bool) (cs core : List Char) : Prop :=
  ∃ front back, cs = front ++ (core ++ back) ∧ (∀ c ∈ front, p c) ∧ (∀ c ∈ back, p c) ∧
    (∀ c ∈ core.head?, p c = false) ∧ ∀ c ∈ core.getLast?, p c = false

variable {p : Char → Bool} {cs core : List Char}

/-- What trimming leaves is a core: nothing but characters of the kind is taken away. -/
theorem isCore_trimBy (p : Char → Bool) (cs : List Char) : IsCore p cs (trimBy p cs) := by
  have hback : trimBy p cs ++ ((cs.dropWhile p).reverse.takeWhile p).reverse = cs.dropWhile p := by
    rw [trimBy, ← List.reverse_append, List.takeWhile_append_dropWhile, List.reverse_reverse]
  refine ⟨cs.takeWhile p, ((cs.dropWhile p).reverse.takeWhile p).reverse, ?_, ?_, ?_, ?_, ?_⟩
  · rw [hback, List.takeWhile_append_dropWhile]
  · exact fun c hc => List.mem_takeWhile_imp hc
  · exact fun c hc => List.mem_takeWhile_imp (List.mem_reverse.mp hc)
  · intro c hc
    have hhead : c ∈ (cs.dropWhile p).head? := by
      rw [← hback]
      exact List.mem_head?_append_of_mem_head? hc
    exact head?_dropWhile hhead
  · intro c hc
    rw [trimBy, List.getLast?_reverse] at hc
    exact head?_dropWhile hc

/-- **Cores.**  Trimming a text leaves its core, and there is no other. -/
theorem trimBy_eq_iff : trimBy p cs = core ↔ IsCore p cs core := by
  constructor
  · rintro rfl
    exact isCore_trimBy p cs
  · rintro ⟨front, back, rfl, hfront, hback, hfirst, hlast⟩
    cases core with
    | nil =>
        have hall : ∀ c ∈ front ++ back, p c := List.forall_mem_append.mpr ⟨hfront, hback⟩
        rw [List.nil_append, trimBy, List.dropWhile_eq_nil_iff.mpr hall]
        rfl
    | cons c rest =>
        have hdrop : (front ++ (c :: rest ++ back)).dropWhile p = c :: rest ++ back :=
          dropWhile_run hfront hfirst
        rw [trimBy, hdrop, List.reverse_append, dropWhile_run, List.reverse_reverse]
        · exact fun d hd => hback d (List.mem_reverse.mp hd)
        · rwa [List.head?_reverse]

end RequestLog.Text
