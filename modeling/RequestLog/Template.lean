import RequestLog.Fault
import RequestLog.Text.Cut
import RequestLog.Text.Word
import RequestLog.Value.Elements

/-!
# Templates

A template is a text with placeholders: a colon, a name of two or more name characters, and
perhaps an argument in brackets. `scan` finds every placeholder in order of appearance. A template
that is compiled keeps one reference for each placeholder text, at its first appearance; the text
between placeholders only separates them.
-/

namespace RequestLog

/-- A placeholder: the name of a token and the argument for it. -/
structure Placeholder where
  name : String
  argument : Option String
  deriving DecidableEq, Repr

/-- The text of a placeholder after its colon. -/
def Placeholder.key (p : Placeholder) : String :=
  match p.argument with
  | none => p.name
  | some a => p.name ++ "[" ++ a ++ "]"

namespace Template

/-- A character that names are made of: a word character or a hyphen. -/
def isNameChar (c : Char) : Bool := Text.isWordChar c || c == '-'

/-- Takes an argument in brackets: at least one character up to the first closing bracket. -/
def takeArgument : List Char → Option (List Char × List Char)
  | '[' :: rest =>
    match Text.cutAt ']' rest with
    | some (a :: as, rest') => some (a :: as, rest')
    | _ => none
  | _ => none

/-- Takes the name and argument of a placeholder, whose colon has been read. -/
def takePlaceholder (cs : List Char) : Option (Placeholder × List Char) :=
  let name := cs.takeWhile isNameChar
  let rest := cs.dropWhile isNameChar
  if name.length < 2 then none
  else
    match takeArgument rest with
    | some (argument, rest') =>
      some (⟨String.ofList name, some (String.ofList argument)⟩, rest')
    | none => some (⟨String.ofList name, none⟩, rest)

/-- An argument and its brackets are taken from the front. -/
theorem length_takeArgument {cs argument rest : List Char}
    (h : takeArgument cs = some (argument, rest)) : rest.length < cs.length := by
  unfold takeArgument at h
  split at h
  · rename_i tail
    split at h
    · rename_i hc
      obtain ⟨rfl, -⟩ := Text.eq_append_of_cutAt hc
      simp only [Option.some.injEq, Prod.mk.injEq] at h
      obtain ⟨-, rfl⟩ := h
      simp; omega
    · simp at h
  · simp at h

/-- A placeholder is taken from the front. -/
theorem length_takePlaceholder {cs rest : List Char} {p : Placeholder}
    (h : takePlaceholder cs = some (p, rest)) : rest.length < cs.length := by
  have hsplit : cs.takeWhile isNameChar ++ cs.dropWhile isNameChar = cs :=
    List.takeWhile_append_dropWhile
  have hlen : (cs.takeWhile isNameChar).length + (cs.dropWhile isNameChar).length = cs.length := by
    rw [← List.length_append, hsplit]
  unfold takePlaceholder at h
  simp only at h
  split at h
  · simp at h
  · split at h
    · rename_i ha
      have := length_takeArgument ha
      simp only [Option.some.injEq, Prod.mk.injEq] at h
      obtain ⟨-, rfl⟩ := h
      omega
    · simp only [Option.some.injEq, Prod.mk.injEq] at h
      obtain ⟨-, rfl⟩ := h
      omega

/-- Every placeholder of a text in order of appearance. -/
def scanChars : List Char → List Placeholder
  | [] => []
  | c :: rest =>
    if c = ':' then
      match h : takePlaceholder rest with
      | some (p, rest') =>
        have : rest'.length < rest.length := length_takePlaceholder h
        p :: scanChars rest'
      | none => scanChars rest
    else scanChars rest
termination_by cs => cs.length

/-- Every placeholder of a template in order of appearance. -/
def scan (source : String) : List Placeholder := scanChars source.toList

/-- The first placeholder of each key, in order. -/
def distinct : List Placeholder → List Placeholder
  | [] => []
  | p :: rest => p :: (distinct rest).filter fun q => q.key != p.key

/-- Every placeholder of a value, which must be a text, in order of appearance. -/
def scanValue (v : Value) : Except Fault (List Placeholder) := v.searched.map scan

/-- The placeholders of a template that a record has fields for. -/
def references (source : String) : List Placeholder := distinct (scan source)

end Template

/-- A compiled template: its text and the placeholders that make up a record. -/
structure Template where
  source : String
  fields : List Placeholder
  deriving DecidableEq, Repr

namespace Template

/-- Compiles a text. A template must not be empty. -/
def compile (source : String) : Except Fault Template :=
  if source.isEmpty then .error .templateEmpty else .ok ⟨source, references source⟩

/-- Compiles a value, which must be a text. -/
def ofValue (v : Value) : Except Fault Template :=
  match v with
  | .text source => compile source
  | _ => .error .templateNotText

/-- The keys of the fields. -/
def keys (t : Template) : List String := t.fields.map Placeholder.key

/-- How a compiled template presents itself. -/
def literal (t : Template) : String := "RecordBuilder(" ++ Text.Quoted.quote t.source ++ ")"

end Template

end RequestLog
