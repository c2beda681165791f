import Mathlib.Data.Finset.Card
import RequestLog.Proofs.Template.Isolation

/-!
# Templates written from their keys

The keys of a template's references, each behind a colon and with a separator after it, are a
template again. A separator spells no beginning of a placeholder, and it is empty or starts with a
space, so that no placeholder is read on into it. What is written in this way is read as it was
written (`scan_render`), whatever stands in the arguments. The main statement is
`references_render`: the new template has the references of the old one. Keys tell placeholders
apart on all templates, so no reference is lost where a key repeats, and a record has one field for
each distinct placeholder.
-/

namespace RequestLog

namespace Template

/-- Keys behind colons, with the text that follows each. -/
def renderKeys : List (String × String) → String
  | [] => ""
  | (key, separator) :: rest => ":" ++ key ++ separator ++ renderKeys rest

/-- A template with these keys, and separators before, between and after them. -/
def render (opening : String) (pieces : List (String × String)) : String :=
  opening ++ renderKeys pieces

/-- The text may stand between placeholders: it spells no beginning of one, and it is empty or
starts with a space. -/
structure IsSeparator (separator : String) : Prop where
  isLiteral : IsLiteral separator.toList
  start : separator = "" ∨ ∃ rest, separator = " " ++ rest

@[simp]
theorem isNameChar_space : isNameChar ' ' = false := by decide

/-- A text spells no beginning of a placeholder exactly if none is scanned in it. -/
theorem isLiteral_iff_scanChars {cs : List Char} : IsLiteral cs ↔ scanChars cs = [] := by
  rw [← placeholders_layOut, Layout.placeholders, List.map_eq_nil_iff]
  constructor
  · intro h
    have hlayout : layOut (cs ++ []) = (layOut []).prepend cs := layOut_literal h (by simp)
    rw [List.append_nil] at hlayout
    rw [hlayout, layOut]
    rfl
  · intro h
    have htext := text_layOut cs
    rw [Layout.text, h, piecesText, List.append_nil] at htext
    rw [← htext]
    exact (isProper_layOut cs).opening

/-! ### What is written is read -/

/-- Keys behind colons are pieces that are written. -/
theorem toList_renderKeys (pieces : List (Placeholder × String)) :
    (renderKeys (pieces.map fun piece => (piece.1.key, piece.2))).toList =
      piecesText (pieces.map fun piece => (piece.1, piece.2.toList)) := by
  induction pieces with
  | nil => rfl
  | cons piece rest ih => simp [renderKeys, piecesText, ih]

/-- A text that starts with a space or a colon, or with nothing, ends every placeholder. -/
theorem endsBefore_of_head {p : Placeholder} {cs : List Char}
    (h : ∀ c ∈ cs.head?, c = ' ' ∨ c = ':') : EndsBefore p cs := by
  intro _
  constructor
  · intro c hc
    rcases h c hc with rfl | rfl <;> simp
  · rintro ⟨argument, rest, -, -, rfl⟩
    rcases h '[' rfl with hc | hc <;> cases hc

/-- Pieces start with a colon, and a separator in front of them with a space if it has
characters. -/
theorem IsSeparator.head_append {separator : String} (h : IsSeparator separator)
    (pieces : List (Placeholder × List Char)) :
    ∀ c ∈ (separator.toList ++ piecesText pieces).head?, c = ' ' ∨ c = ':' := by
  rcases h.start with rfl | ⟨rest, rfl⟩
  · cases pieces <;> simp [piecesText]
  · simp

/-- Placeholders that a text can spell are read where they stand behind each other with separators
after them. -/
theorem arePieces_of_isSeparator {pieces : List (Placeholder × String)}
    (hproper : ∀ piece ∈ pieces, piece.1.IsProper)
    (hseparator : ∀ piece ∈ pieces, IsSeparator piece.2) :
    ArePieces (pieces.map fun piece => (piece.1, piece.2.toList)) := by
  induction pieces with
  | nil => trivial
  | cons piece rest ih =>
      obtain ⟨hp, hps⟩ := List.forall_mem_cons.mp hproper
      obtain ⟨hs, hss⟩ := List.forall_mem_cons.mp hseparator
      exact ⟨hp, hs.isLiteral, endsBefore_of_head (hs.head_append _), ih hps hss⟩

/-- Texts that are the keys of placeholders, with other texts beside them, are the keys of these
placeholders with the same texts. -/
theorem exists_pieces {ps : List Placeholder} {pieces : List (String × String)}
    (h : pieces.map (·.1) = ps.map Placeholder.key) :
    ∃ pieces' : List (Placeholder × String), pieces'.map (·.1) = ps ∧
      pieces = pieces'.map fun piece => (piece.1.key, piece.2) := by
  induction ps generalizing pieces with
  | nil => exact ⟨[], rfl, List.map_eq_nil_iff.mp h⟩
  | cons p ps ih =>
      cases pieces with
      | nil => cases h
      | cons piece pieces =>
          obtain ⟨hkey, hkeys⟩ := List.cons.inj h
          obtain ⟨pieces', hps, rfl⟩ := ih hkeys
          refine ⟨(p, piece.2) :: pieces', by rw [List.map_cons, hps], ?_⟩
          rw [List.map_cons, ← hkey]

/-- **Reading what was written.**  Placeholders that a text can spell, written by their keys with
separators around them, are the placeholders that are scanned. -/
theorem scan_render {ps : List Placeholder} (hproper : ∀ p ∈ ps, p.IsProper) {opening : String}
    {pieces : List (String × String)} (hkeys : pieces.map (·.1) = ps.map Placeholder.key)
    (hseparators : ∀ separator ∈ opening :: pieces.map (·.2), IsSeparator separator) :
    scan (render opening pieces) = ps := by
  obtain ⟨pieces', rfl, rfl⟩ := exists_pieces hkeys
  obtain ⟨hopening, hbehind⟩ := List.forall_mem_cons.mp hseparators
  let l : Layout := ⟨opening.toList, pieces'.map fun piece => (piece.1, piece.2.toList)⟩
  have htext : (render opening (pieces'.map fun piece => (piece.1.key, piece.2))).toList =
      l.text := by
    rw [render, String.toList_append, toList_renderKeys]
    rfl
  have hl : l.IsProper := by
    refine ⟨hopening.isLiteral, arePieces_of_isSeparator ?_ ?_⟩
    · exact fun piece hpiece => hproper _ (List.mem_map_of_mem hpiece)
    · intro piece hpiece
      apply hbehind
      rw [List.map_map]
      exact List.mem_map_of_mem (f := fun piece : Placeholder × String => piece.2) hpiece
  rw [scan, htext, ← placeholders_layOut, layOut_text hl, Layout.placeholders, List.map_map]
  rfl

/-! ### References -/

/-- What is distinct already stays as it is. -/
theorem distinct_distinct (ps : List Placeholder) : distinct (distinct ps) = distinct ps := by
  induction ps with
  | nil => rfl
  | cons p rest ih =>
      simp only [distinct, distinct_filter, ih, List.filter_filter, Bool.and_self]

/-- A reference of a template is one of its placeholders. -/
theorem mem_references_iff {source : String} {p : Placeholder} :
    p ∈ references source ↔ p ∈ scan source := by
  rw [references_eq, List.mem_eraseDups]

theorem nodup_references (source : String) : (references source).Nodup :=
  (nodup_keys_distinct _).of_map _

/-- A template has as many references as it has distinct placeholders. -/
theorem length_references (source : String) :
    (references source).length = (scan source).toFinset.card := by
  rw [← List.toFinset_card_of_nodup (nodup_references source)]
  congr 1
  ext p
  rw [List.mem_toFinset, List.mem_toFinset, mem_references_iff]

/-- A record has a field for each reference of its template. -/
theorem keys_build {σ : Type} {source : String} {t : Template} (ht : compile source = .ok t)
    {registry : Registry (Resolver σ)} {sight : Sight} {s : σ} {record : Record}
    (h : (t.build registry sight s).result = .ok record) :
    record.keys = (references source).map Placeholder.key := by
  obtain ⟨-, rfl⟩ := compile_eq_ok_iff.mp ht
  rw [build_apply] at h
  cases hvalues : (fieldValues registry sight (references source) s).result with
  | error f =>
      rw [hvalues] at h
      cases h
  | ok values =>
      rw [hvalues] at h
      cases h
      have hkeys := keys_fieldValues hvalues
      have hnodup : (values.map (·.1)).Nodup := hkeys ▸ nodup_keys_distinct _
      rw [Record.keys, Table.keys, Record.ofList, Table.entries_ofList hnodup, hkeys]

/-- **Templates from their keys.**  A template is written again from the keys of its references,
with any separators around them, and its references are the same then, each with its name and its
argument and in the same order. On all templates a key belongs to one placeholder only. So no
placeholder is missing among the references, and a record has as many fields as there are distinct
placeholders in its template. -/
theorem references_render (source : String) :
    (∀ (opening : String) (pieces : List (String × String)),
      pieces.map (·.1) = (references source).map Placeholder.key →
      (∀ separator ∈ opening :: pieces.map (·.2), IsSeparator separator) →
        references (render opening pieces) = references source) ∧
    (∀ other : String, ∀ p ∈ scan source, ∀ q ∈ scan other, p.key = q.key → p = q) ∧
    (∀ p ∈ scan source, p ∈ references source) ∧
    ∀ t, compile source = .ok t →
      ∀ {σ : Type} (registry : Registry (Resolver σ)) (sight : Sight) (s : σ) (record : Record),
        (t.build registry sight s).result = .ok record →
          record.size = (scan source).toFinset.card := by
  refine ⟨?_, ?_, fun p hp => mem_references_iff.mpr hp, ?_⟩
  · intro opening pieces hkeys hseparators
    have hproper : ∀ p ∈ references source, p.IsProper := fun p hp =>
      isProper_of_mem_scan (mem_references_iff.mp hp)
    rw [references, scan_render hproper hkeys hseparators, references, distinct_distinct]
  · intro other p hp q hq
    exact eq_of_key_eq (isProper_of_mem_scan hp) (isProper_of_mem_scan hq)
  · intro t ht σ registry sight s record hrecord
    have hkeys := congrArg List.length (keys_build ht hrecord)
    rw [List.length_map, length_references] at hkeys
    rw [← hkeys, Record.size, Record.keys, Table.keys, List.length_map]

/-- An argument that looks like a placeholder, a repetition, and separators that end in a colon or
in a colon and a single name character. -/
theorem references_render_nested :
    let source := "x:asked[:down[]/:down, :asked[:down[]"
    let pieces := [("asked[:down[]", ""), ("down", " :")]
    pieces.map (·.1) = (references source).map Placeholder.key ∧
      (∀ separator ∈ " ::x" :: pieces.map (·.2), IsSeparator separator) ∧
      references (render " ::x" pieces) = [⟨"asked", some ":down["⟩, ⟨"down", none⟩] ∧
      ∃ t record, compile source = .ok t ∧
        (t.build Registry.counting .atNoon 0).result = .ok record ∧ record.size = 2 := by
  intro source pieces
  have hscan : scan source =
      [⟨"asked", some ":down["⟩, ⟨"down", none⟩, ⟨"asked", some ":down["⟩] := by decide +kernel
  have hreferences : references source = [⟨"asked", some ":down["⟩, ⟨"down", none⟩] := by
    rw [references, hscan]
    decide
  have hkeys : pieces.map (·.1) = (references source).map Placeholder.key := by
    rw [hreferences]
    decide
  have hseparators : ∀ separator ∈ " ::x" :: pieces.map (·.2), IsSeparator separator := by
    simp only [pieces, List.map_cons, List.map_nil, List.forall_mem_cons]
    refine ⟨⟨?_, .inr ⟨"::x", rfl⟩⟩, ⟨?_, .inl rfl⟩, ⟨?_, .inr ⟨":", rfl⟩⟩, by simp⟩
    · exact isLiteral_iff_scanChars.mpr (by decide +kernel)
    · exact isLiteral_iff_scanChars.mpr (by decide +kernel)
    · exact isLiteral_iff_scanChars.mpr (by decide +kernel)
  obtain ⟨hrender, -, -, hsize⟩ := references_render source
  have ht : compile source = .ok ⟨source, references source⟩ :=
    compile_eq_ok_iff.mpr ⟨by decide, rfl⟩
  obtain ⟨record, hrecord⟩ : ∃ record, (Template.build ⟨source, references source⟩
      Registry.counting .atNoon 0).result = .ok record := by
    rw [hreferences]
    exact ⟨_, rfl⟩
  refine ⟨hkeys, hseparators, (hrender _ _ hkeys hseparators).trans hreferences, _, record, ht,
    hrecord, ?_⟩
  rw [hsize _ ht _ _ _ _ hrecord, hscan]
  decide

end Template

end RequestLog
