import Mathlib.Logic.ExistsUnique
import RequestLog.Proofs.Text.Parts
import RequestLog.Template

/-!
# The grammar of templates

A template is written from a literal text, and placeholders with a literal text after each
(`Layout`). In a proper layout no literal spells the beginning of a placeholder, every placeholder
is one that a text can spell, and no placeholder could be read on into what follows it. Writing a
proper layout and taking a text apart (`layOut`) are inverse to each other (`layOut_text`,
`text_layOut`), and the placeholders that are scanned are those of the layout
(`placeholders_layOut`). So every text has exactly one proper layout, and scanning gives its
placeholders: `scan_iff_layout`.
-/

namespace RequestLog

/-- A text can spell the placeholder: its name has two or more name characters and no others, and
an argument has characters, none of which is a closing bracket. -/
structure Placeholder.IsProper (p : Placeholder) : Prop where
  length_name : 2 ≤ p.name.toList.length
  isNameChar : ∀ c ∈ p.name.toList, Template.isNameChar c
  argument : ∀ a ∈ p.argument, a.toList ≠ [] ∧ ']' ∉ a.toList

namespace Template

/-- The text starts with two name characters. -/
def StartsWithName (cs : List Char) : Prop :=
  ∃ c d, isNameChar c ∧ isNameChar d ∧ [c, d] <+: cs

/-- No colon stands right before two name characters. -/
def IsLiteral (cs : List Char) : Prop :=
  ∀ c d, isNameChar c → isNameChar d → ¬ [':', c, d] <:+: cs

/-- The text starts with an argument in brackets. -/
def StartsWithArgument (cs : List Char) : Prop :=
  ∃ argument rest, argument ≠ [] ∧ ']' ∉ argument ∧ cs = '[' :: argument ++ ']' :: rest

/-- A placeholder without an argument is not read on into the text. -/
def EndsBefore (p : Placeholder) (cs : List Char) : Prop :=
  p.argument = none → (∀ c ∈ cs.head?, ¬ isNameChar c) ∧ ¬ StartsWithArgument cs

/-- A literal, and placeholders with the literal that follows each. -/
structure Layout where
  opening : List Char
  pieces : List (Placeholder × List Char)

/-- Placeholders and literals as they are written. -/
def piecesText : List (Placeholder × List Char) → List Char
  | [] => []
  | (p, literal) :: rest => ':' :: p.key.toList ++ (literal ++ piecesText rest)

/-- What follows is read as these placeholders and literals. -/
def ArePieces : List (Placeholder × List Char) → Prop
  | [] => True
  | (p, literal) :: rest =>
    p.IsProper ∧ IsLiteral literal ∧ EndsBefore p (literal ++ piecesText rest) ∧ ArePieces rest

namespace Layout

/-- The text of a layout. -/
def text (l : Layout) : List Char := l.opening ++ piecesText l.pieces

/-- The placeholders of a layout. -/
def placeholders (l : Layout) : List Placeholder := l.pieces.map (·.1)

/-- The layout is read the way that it was written. -/
structure IsProper (l : Layout) : Prop where
  opening : IsLiteral l.opening
  pieces : ArePieces l.pieces

/-- The layout with characters in front. -/
def prepend (cs : List Char) (l : Layout) : Layout := ⟨cs ++ l.opening, l.pieces⟩

/-- The layout with a placeholder in front. -/
def cons (p : Placeholder) (l : Layout) : Layout := ⟨[], (p, l.opening) :: l.pieces⟩

end Layout

/-! ### One placeholder -/

@[simp]
theorem isNameChar_colon : isNameChar ':' = false := by decide

@[simp]
theorem isNameChar_bracket : isNameChar '[' = false := by decide

/-- An argument is taken up to the first closing bracket, and is not empty. -/
theorem takeArgument_eq_some_iff {cs argument rest : List Char} :
    takeArgument cs = some (argument, rest) ↔
      argument ≠ [] ∧ ']' ∉ argument ∧ cs = '[' :: argument ++ ']' :: rest := by
  constructor
  · intro h
    unfold takeArgument at h
    split at h
    · split at h
      · rename_i hcut
        obtain ⟨rfl, hfree⟩ := Text.eq_append_of_cutAt hcut
        cases h
        exact ⟨by simp, hfree, rfl⟩
      · cases h
    · cases h
  · rintro ⟨hne, hfree, rfl⟩
    obtain ⟨a, as, rfl⟩ := List.exists_cons_of_ne_nil hne
    simp only [takeArgument, List.cons_append]
    rw [← List.cons_append, Text.cutAt_append hfree]

/-- No argument is taken where none starts. -/
theorem takeArgument_eq_none_iff {cs : List Char} :
    takeArgument cs = none ↔ ¬ StartsWithArgument cs := by
  constructor
  · rintro h ⟨argument, rest, hargument⟩
    rw [takeArgument_eq_some_iff.mpr hargument] at h
    cases h
  · intro h
    cases htaken : takeArgument cs with
    | none => rfl
    | some p => exact absurd ⟨p.1, p.2, takeArgument_eq_some_iff.mp htaken⟩ h

/-- The longest front of name characters decides what is taken. -/
theorem takePlaceholder_append {name rest : List Char} (hname : ∀ c ∈ name, isNameChar c)
    (hrest : ∀ c ∈ rest.head?, ¬ isNameChar c) :
    takePlaceholder (name ++ rest) =
      if name.length < 2 then none
      else match takeArgument rest with
        | some (argument, rest') =>
          some (⟨String.ofList name, some (String.ofList argument)⟩, rest')
        | none => some (⟨String.ofList name, none⟩, rest) := by
  have htake : (name ++ rest).takeWhile isNameChar = name := by
    rw [List.takeWhile_append_of_pos hname]
    cases rest with
    | nil => simp
    | cons c cs => simp [hrest c rfl]
  have hdrop : (name ++ rest).dropWhile isNameChar = rest := by
    rw [List.dropWhile_append_of_pos hname]
    cases rest with
    | nil => rfl
    | cons c cs => simp [hrest c rfl]
  have htaken := takePlaceholder.eq_def (name ++ rest)
  rw [htake, hdrop] at htaken
  exact htaken

/-- Every text is name characters and what does not start with one. -/
theorem exists_append_isNameChar (cs : List Char) :
    ∃ name rest, cs = name ++ rest ∧ (∀ c ∈ name, isNameChar c) ∧
      ∀ c ∈ rest.head?, ¬ isNameChar c := by
  refine ⟨cs.takeWhile isNameChar, cs.dropWhile isNameChar, ?_, ?_, ?_⟩
  · exact List.takeWhile_append_dropWhile.symm
  · exact List.all_eq_true.mp List.all_takeWhile
  · exact fun c hc => by simp [Text.head?_dropWhile hc]

/-- A placeholder is taken where it is written, if it does not go on into the rest. -/
theorem takePlaceholder_key {p : Placeholder} {rest : List Char} (hproper : p.IsProper)
    (hends : EndsBefore p rest) : takePlaceholder (p.key.toList ++ rest) = some (p, rest) := by
  have hlength : ¬ p.name.toList.length < 2 := Nat.not_lt.mpr hproper.length_name
  obtain ⟨name, _ | argument⟩ := p
  · obtain ⟨hhead, hargument⟩ := hends rfl
    have htaken := takePlaceholder_append hproper.isNameChar hhead
    rw [if_neg hlength, takeArgument_eq_none_iff.mpr hargument] at htaken
    simpa [Placeholder.key] using htaken
  · obtain ⟨hne, hfree⟩ := hproper.argument argument rfl
    have hhead : ∀ c ∈ ('[' :: argument.toList ++ ']' :: rest).head?, ¬ isNameChar c := by simp
    have htaken := takePlaceholder_append hproper.isNameChar hhead
    rw [if_neg hlength, takeArgument_eq_some_iff.mpr ⟨hne, hfree, rfl⟩] at htaken
    simpa [Placeholder.key] using htaken

/-- **One placeholder.**  A placeholder is taken exactly where it is written, with a rest that it
does not go on into. -/
theorem takePlaceholder_eq_some_iff {cs rest : List Char} {p : Placeholder} :
    takePlaceholder cs = some (p, rest) ↔
      p.IsProper ∧ EndsBefore p rest ∧ cs = p.key.toList ++ rest := by
  constructor
  · intro h
    obtain ⟨name, tail, rfl, hname, htail⟩ := exists_append_isNameChar cs
    rw [takePlaceholder_append hname htail] at h
    split at h
    · cases h
    · rename_i hlength
      have hname' : 2 ≤ (String.ofList name).toList.length := by
        rw [String.toList_ofList]
        omega
      split at h
      · rename_i hargument
        obtain ⟨hne, hfree, rfl⟩ := takeArgument_eq_some_iff.mp hargument
        cases h
        refine ⟨⟨hname', by simpa using hname, ?_⟩, ?_, ?_⟩
        · simp [hne, hfree]
        · rintro ⟨⟩
        · simp [Placeholder.key]
      · rename_i hargument
        cases h
        refine ⟨⟨hname', by simpa using hname, ?_⟩, ?_, ?_⟩
        · rintro a ⟨⟩
        · exact fun _ => ⟨htail, takeArgument_eq_none_iff.mp hargument⟩
        · simp [Placeholder.key]
  · rintro ⟨hproper, hends, rfl⟩
    exact takePlaceholder_key hproper hends

/-- No placeholder is taken exactly where no two name characters stand. -/
theorem takePlaceholder_eq_none_iff {cs : List Char} :
    takePlaceholder cs = none ↔ ¬ StartsWithName cs := by
  obtain ⟨name, rest, rfl, hname, hrest⟩ := exists_append_isNameChar cs
  have hlength : takePlaceholder (name ++ rest) = none ↔ name.length < 2 := by
    rw [takePlaceholder_append hname hrest]
    split
    · rename_i hlength
      simp [hlength]
    · rename_i hlength
      split <;> simp [hlength]
  rw [hlength, ← Nat.not_le]
  refine not_congr ⟨?_, ?_⟩
  · intro htwo
    obtain ⟨c, d, tail, rfl⟩ : ∃ c d tail, name = c :: d :: tail := by
      match name, htwo with
      | c :: d :: tail, _ => exact ⟨c, d, tail, rfl⟩
    exact ⟨c, d, hname c (by simp), hname d (by simp), tail ++ rest, rfl⟩
  · rintro ⟨c, d, hc, hd, tail, htail⟩
    match name, hname, htail with
    | [], _, htail =>
        obtain rfl : c :: d :: tail = rest := htail
        exact absurd hc (hrest c rfl)
    | [b], _, htail =>
        obtain rfl : d :: tail = rest := (List.cons.inj htail).2
        exact absurd hd (hrest d rfl)
    | b :: b' :: tail, _, _ => simp

/-! ### Literals -/

theorem isLiteral_nil : IsLiteral [] := by
  intro c d _ _ h
  simpa using h.length_le

/-- A text is literal if no name starts behind a colon in it. -/
theorem isLiteral_cons_iff {c : Char} {cs : List Char} :
    IsLiteral (c :: cs) ↔ (c = ':' → ¬ StartsWithName cs) ∧ IsLiteral cs := by
  unfold IsLiteral StartsWithName
  simp only [List.infix_cons_iff, List.cons_prefix_cons]
  constructor
  · intro h
    refine ⟨?_, ?_⟩
    · rintro rfl ⟨a, b, ha, hb, hprefix⟩
      exact h a b ha hb (.inl ⟨rfl, hprefix⟩)
    · intro a b ha hb hinfix
      exact h a b ha hb (.inr hinfix)
  · rintro ⟨hname, hrest⟩ a b ha hb (⟨rfl, hprefix⟩ | hinfix)
    · exact hname rfl ⟨a, b, ha, hb, hprefix⟩
    · exact hrest a b ha hb hinfix

/-! ### Taking a text apart -/

/-- The layout of a text. -/
def layOut : List Char → Layout
  | [] => ⟨[], []⟩
  | c :: rest =>
    if c = ':' then
      match h : takePlaceholder rest with
      | some (p, rest') =>
        have : rest'.length < rest.length := length_takePlaceholder h
        (layOut rest').cons p
      | none => (layOut rest).prepend [c]
    else (layOut rest).prepend [c]
termination_by cs => cs.length

/-- A placeholder that is taken comes first in the layout. -/
theorem layOut_taken {cs rest : List Char} {p : Placeholder}
    (h : takePlaceholder cs = some (p, rest)) : layOut (':' :: cs) = (layOut rest).cons p := by
  rw [layOut, if_pos rfl]
  split
  · rename_i h'
    rw [h] at h'
    cases h'
    rfl
  · rename_i h'
    rw [h] at h'
    cases h'

/-- A character that starts no placeholder belongs to the text before the first one. -/
theorem layOut_passed {c : Char} {cs : List Char} (h : c = ':' → takePlaceholder cs = none) :
    layOut (c :: cs) = (layOut cs).prepend [c] := by
  rw [layOut]
  split
  · rename_i hc
    split
    · rename_i h'
      rw [h hc] at h'
      cases h'
    · rfl
  · rfl

/-- A placeholder that is taken comes first. -/
theorem scanChars_taken {cs rest : List Char} {p : Placeholder}
    (h : takePlaceholder cs = some (p, rest)) : scanChars (':' :: cs) = p :: scanChars rest := by
  rw [scanChars, if_pos rfl]
  split
  · rename_i h'
    rw [h] at h'
    cases h'
    rfl
  · rename_i h'
    rw [h] at h'
    cases h'

/-- A character that starts no placeholder is passed over. -/
theorem scanChars_passed {c : Char} {cs : List Char} (h : c = ':' → takePlaceholder cs = none) :
    scanChars (c :: cs) = scanChars cs := by
  rw [scanChars]
  split
  · rename_i hc
    split
    · rename_i h'
      rw [h hc] at h'
      cases h'
    · rfl
  · rfl

/-- Induction along the reading of a text: at each character a placeholder is taken, or the
character is passed over. -/
theorem reading_induction {motive : List Char → Prop} (nil : motive [])
    (taken : ∀ cs rest p, takePlaceholder cs = some (p, rest) → motive rest → motive (':' :: cs))
    (passed : ∀ c cs, (c = ':' → takePlaceholder cs = none) → motive cs → motive (c :: cs))
    (cs : List Char) : motive cs := by
  induction cs using scanChars.induct with
  | case1 => exact nil
  | case2 rest p rest' h _ ih => exact taken rest rest' p h ih
  | case3 rest h ih => exact passed ':' rest (fun _ => h) ih
  | case4 c rest hc ih => exact passed c rest (fun h => absurd h hc) ih

/-- The placeholders that are scanned are those of the layout. -/
theorem placeholders_layOut (cs : List Char) : (layOut cs).placeholders = scanChars cs := by
  induction cs using reading_induction with
  | nil => simp [layOut, scanChars, Layout.placeholders]
  | taken cs rest p h ih =>
      rw [layOut_taken h, scanChars_taken h, ← ih]
      rfl
  | passed c cs h ih =>
      rw [layOut_passed h, scanChars_passed h, ← ih]
      rfl

/-- A text is the text of its layout. -/
theorem text_layOut (cs : List Char) : (layOut cs).text = cs := by
  induction cs using reading_induction with
  | nil => simp [layOut, Layout.text, piecesText]
  | taken cs rest p h ih =>
      obtain ⟨-, -, rfl⟩ := takePlaceholder_eq_some_iff.mp h
      rw [layOut_taken h]
      calc ((layOut rest).cons p).text
          = ':' :: p.key.toList ++ (layOut rest).text := rfl
        _ = ':' :: (p.key.toList ++ rest) := by rw [ih, List.cons_append]
  | passed c cs h ih =>
      rw [layOut_passed h]
      calc ((layOut cs).prepend [c]).text
          = c :: (layOut cs).text := rfl
        _ = c :: cs := by rw [ih]

/-- The layout of a text is proper. -/
theorem isProper_layOut (cs : List Char) : (layOut cs).IsProper := by
  induction cs using reading_induction with
  | nil =>
      rw [layOut]
      exact ⟨isLiteral_nil, trivial⟩
  | taken cs rest p h ih =>
      obtain ⟨hproper, hends, -⟩ := takePlaceholder_eq_some_iff.mp h
      rw [layOut_taken h]
      refine ⟨isLiteral_nil, hproper, ih.opening, ?_, ih.pieces⟩
      rw [← text_layOut rest] at hends
      exact hends
  | passed c cs h ih =>
      rw [layOut_passed h]
      refine ⟨isLiteral_cons_iff.mpr ⟨?_, ih.opening⟩, ih.pieces⟩
      rintro hc ⟨a, b, ha, hb, hprefix⟩
      refine takePlaceholder_eq_none_iff.mp (h hc) ⟨a, b, ha, hb, ?_⟩
      rw [← text_layOut cs]
      exact hprefix.trans (List.prefix_append _ _)

/-! ### Reading what was written -/

/-- A rest that starts with no name character lengthens no name. -/
theorem not_startsWithName_append {cs rest : List Char} (h : ¬ StartsWithName cs)
    (hrest : ∀ c ∈ rest.head?, ¬ isNameChar c) : ¬ StartsWithName (cs ++ rest) := by
  rintro ⟨c, d, hc, hd, tail, htail⟩
  match cs, htail with
  | [], htail =>
      obtain rfl : c :: d :: tail = rest := htail
      exact hrest c rfl hc
  | [_], htail =>
      obtain rfl : d :: tail = rest := (List.cons.inj htail).2
      exact hrest d rfl hd
  | _ :: _ :: cs, htail =>
      simp only [List.cons_append, List.cons.injEq] at htail
      obtain ⟨rfl, rfl, -⟩ := htail
      exact h ⟨_, _, hc, hd, cs, rfl⟩

/-- A literal is passed over as a whole. -/
theorem layOut_literal {literal rest : List Char} (h : IsLiteral literal)
    (hrest : ∀ c ∈ rest.head?, ¬ isNameChar c) :
    layOut (literal ++ rest) = (layOut rest).prepend literal := by
  induction literal with
  | nil => rfl
  | cons c cs ih =>
      obtain ⟨hname, hcs⟩ := isLiteral_cons_iff.mp h
      have hpassed : c = ':' → takePlaceholder (cs ++ rest) = none := by
        intro hc
        exact takePlaceholder_eq_none_iff.mpr (not_startsWithName_append (hname hc) hrest)
      rw [List.cons_append, layOut_passed hpassed, ih hcs]
      rfl

/-- Pieces start with a colon if there are any. -/
theorem head_piecesText (pieces : List (Placeholder × List Char)) :
    ∀ c ∈ (piecesText pieces).head?, ¬ isNameChar c := by
  match pieces with
  | [] => simp [piecesText]
  | (p, literal) :: rest => simp [piecesText]

/-- Pieces are read as they were written. -/
theorem layOut_pieces {pieces : List (Placeholder × List Char)} (h : ArePieces pieces) :
    layOut (piecesText pieces) = ⟨[], pieces⟩ := by
  induction pieces with
  | nil => rw [piecesText, layOut]
  | cons piece rest ih =>
      obtain ⟨p, literal⟩ := piece
      obtain ⟨hproper, hliteral, hends, hrest⟩ := h
      have htaken := takePlaceholder_key hproper hends
      calc layOut (':' :: (p.key.toList ++ (literal ++ piecesText rest)))
          = (layOut (literal ++ piecesText rest)).cons p := layOut_taken htaken
        _ = ((layOut (piecesText rest)).prepend literal).cons p := by
            rw [layOut_literal hliteral (head_piecesText rest)]
        _ = ⟨[], (p, literal) :: rest⟩ := by
            rw [ih hrest]
            simp [Layout.prepend, Layout.cons]

/-- A proper layout is the layout of its text. -/
theorem layOut_text {l : Layout} (h : l.IsProper) : layOut l.text = l := by
  rw [Layout.text, layOut_literal h.opening (head_piecesText _), layOut_pieces h.pieces]
  simp [Layout.prepend]

/-- **The grammar of templates.**  The placeholders that are scanned are those of a proper layout
of the text. Every text has one and no more. -/
theorem scan_iff_layout (source : String) :
    (∀ ps, scan source = ps ↔
      ∃ l : Layout, l.IsProper ∧ l.text = source.toList ∧ l.placeholders = ps) ∧
    ∃! l : Layout, l.IsProper ∧ l.text = source.toList := by
  have hproper := isProper_layOut source.toList
  have htext := text_layOut source.toList
  have hunique : ∀ l : Layout, l.IsProper → l.text = source.toList → l = layOut source.toList := by
    intro l hl hsource
    rw [← hsource, layOut_text hl]
  refine ⟨fun ps => ⟨?_, ?_⟩, _, ⟨hproper, htext⟩, fun l hl => hunique l hl.1 hl.2⟩
  · rintro rfl
    exact ⟨_, hproper, htext, placeholders_layOut _⟩
  · rintro ⟨l, hl, hsource, rfl⟩
    rw [hunique l hl hsource, placeholders_layOut]
    rfl

example : scan "x:ab[]:cd[:ef[]]::g:h-i[" = [⟨"ab", none⟩, ⟨"cd", some ":ef["⟩, ⟨"h-i", none⟩] := by
  decide +kernel

end Template

end RequestLog
