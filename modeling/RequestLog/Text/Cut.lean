/-!
# Cutting a text at a character

`cutAt` takes a text apart at the first place where a character stands, and loses nothing but that
character: `cutAt_eq_none_iff` and `eq_append_of_cutAt` say so. A text is cut at every such
place by `List.splitOn`.
-/

namespace RequestLog.Text

/-- The parts before and after the first `c`, if there is one. -/
def cutAt (c : Char) : List Char → Option (List Char × List Char)
  | [] => none
  | d :: rest =>
    if d = c then some ([], rest) else (cutAt c rest).map fun p => (d :: p.1, p.2)

/-- There is nothing to cut at exactly when the character does not occur. -/
theorem cutAt_eq_none_iff {c : Char} {cs : List Char} : cutAt c cs = none ↔ c ∉ cs := by
  induction cs with
  | nil => simp [cutAt]
  | cons d rest ih =>
    by_cases h : d = c
    · simp [cutAt, h]
    · simp [cutAt, h, ih, Ne.symm h]

/-- A cut loses nothing but the character cut at, and that is its first occurrence. -/
theorem eq_append_of_cutAt {c : Char} {cs front back : List Char}
    (h : cutAt c cs = some (front, back)) : cs = front ++ c :: back ∧ c ∉ front := by
  induction cs generalizing front with
  | nil => simp [cutAt] at h
  | cons d rest ih =>
    by_cases hd : d = c
    · simp only [cutAt, hd, if_true, Option.some.injEq, Prod.mk.injEq] at h
      obtain ⟨rfl, rfl⟩ := h
      simp [hd]
    · simp only [cutAt, hd, if_false, Option.map_eq_some_iff, Prod.mk.injEq] at h
      obtain ⟨⟨f, b⟩, hp, rfl, rfl⟩ := h
      obtain ⟨rfl, hf⟩ := ih hp
      simp [hf, Ne.symm hd]

/-- Cutting a front without the character, the character and a rest gives them back. -/
theorem cutAt_append {c : Char} {front back : List Char} (h : c ∉ front) :
    cutAt c (front ++ c :: back) = some (front, back) := by
  induction front with
  | nil => simp [cutAt]
  | cons d rest ih =>
    simp only [List.mem_cons, not_or] at h
    simp [cutAt, Ne.symm h.1, ih h.2]

end RequestLog.Text
