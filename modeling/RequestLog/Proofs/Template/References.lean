import Mathlib.Data.List.Basic
import RequestLog.Proofs.Template.Layout

/-!
# Placeholders and their keys

The key of a placeholder that is scanned says what it is (`eq_of_key_eq`), so the references of a
template, which are the first placeholders of each key, are its distinct placeholders in order of
first appearance (`references_eq`).
-/

namespace RequestLog

namespace Template

/-! ### Placeholders that are scanned -/

theorem ArePieces.isProper {pieces : List (Placeholder × List Char)} (h : ArePieces pieces) :
    ∀ piece ∈ pieces, piece.1.IsProper := by
  induction pieces with
  | nil => simp
  | cons head rest ih =>
      obtain ⟨hproper, -, -, hrest⟩ := h
      intro piece hpiece
      rcases List.mem_cons.mp hpiece with rfl | hpiece
      · exact hproper
      · exact ih hrest piece hpiece

/-- A placeholder that is scanned is one that a text can spell. -/
theorem isProper_of_mem_scan {source : String} {p : Placeholder} (h : p ∈ scan source) :
    p.IsProper := by
  rw [scan, ← placeholders_layOut] at h
  obtain ⟨piece, hpiece, rfl⟩ := List.mem_map.mp h
  exact (isProper_layOut _).pieces.isProper piece hpiece

/-- The key of a placeholder is read as this placeholder. -/
theorem eq_of_key_eq {p q : Placeholder} (hp : p.IsProper) (hq : q.IsProper)
    (h : p.key = q.key) : p = q := by
  have hends : ∀ p : Placeholder, EndsBefore p [] := by
    intro p _
    refine ⟨by simp, ?_⟩
    rintro ⟨argument, rest, -, -, htext⟩
    cases htext
  have hreadp := takePlaceholder_key hp (hends p)
  have hreadq := takePlaceholder_key hq (hends q)
  rw [h, hreadq] at hreadp
  cases hreadp
  rfl

/-! ### The first of each key -/

/-- Leaving out the placeholders of a key leaves out the one that would be first. -/
theorem distinct_filter (key : String) (ps : List Placeholder) :
    distinct (ps.filter (·.key != key)) = (distinct ps).filter (·.key != key) := by
  induction ps with
  | nil => rfl
  | cons p rest ih =>
      by_cases hp : p.key = key
      · subst hp
        simp [distinct, ih]
      · have hkept : ∀ qs : List Placeholder, (p :: qs).filter (·.key != key) =
            p :: qs.filter (·.key != key) := fun qs => List.filter_cons_of_pos (by simpa using hp)
        rw [hkept, distinct, distinct, ih, hkept, List.filter_comm]

theorem distinct_cons (p : Placeholder) (rest : List Placeholder) :
    distinct (p :: rest) = p :: distinct (rest.filter (·.key != p.key)) := by
  rw [distinct, distinct_filter]

/-- Where keys say what a placeholder is, the first of each key are the distinct placeholders. -/
theorem distinct_eq_eraseDups (ps : List Placeholder)
    (h : ∀ p ∈ ps, ∀ q ∈ ps, p.key = q.key → p = q) : distinct ps = ps.eraseDups := by
  match ps with
  | [] => rfl
  | p :: rest =>
      have hkey : ∀ q ∈ rest, (q.key != p.key) = (!q == p) := by
        intro q hq
        by_cases hqp : q = p
        · subst hqp
          simp
        · have hne : q.key ≠ p.key := fun hk => hqp (h q (.tail _ hq) p (.head _) hk)
          rw [beq_eq_false_iff_ne.mpr hqp, bne_iff_ne.mpr hne]
          rfl
      have hrest : ∀ a ∈ rest.filter (!· == p), ∀ b ∈ rest.filter (!· == p),
          a.key = b.key → a = b := by
        intro a ha b hb
        exact h a (.tail _ (List.mem_filter.mp ha).1) b (.tail _ (List.mem_filter.mp hb).1)
      rw [distinct_cons, List.eraseDups_cons, List.filter_congr hkey,
        distinct_eq_eraseDups _ hrest]
termination_by ps.length
decreasing_by exact Nat.lt_succ_of_le (List.length_filter_le _ _)

/-- The references of a template are its distinct placeholders in order of first appearance. -/
theorem references_eq (source : String) : references source = (scan source).eraseDups :=
  distinct_eq_eraseDups _ fun _ hp _ hq =>
    eq_of_key_eq (isProper_of_mem_scan hp) (isProper_of_mem_scan hq)

end Template

end RequestLog
