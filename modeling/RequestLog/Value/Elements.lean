import RequestLog.Fault
import RequestLog.Value.Basic

/-!
# Values as sequences

Lists, texts, bytes and mappings can be gone through element by element: the elements of a text
are its characters, those of bytes are numbers, and those of a mapping its keys. What has the form
of characters is looked for in texts only.
-/

namespace RequestLog.Value

/-- The characters of a text, each as a text. -/
def characters (s : String) : List Value := s.toList.map fun c => .text (String.ofList [c])

/-- The elements of a value that is a sequence. -/
def elements? (v : Value) : Option (List Value) :=
  match v with
  | .list items | .tuple items => some items
  | .text s => some (characters s)
  | .bytes b | .buffer b => some (b.map fun x => .int x.toNat)
  | .mapping entries => some (entries.map fun e => .text e.1)
  | _ => none

/-- The elements of a value that has to be a sequence. -/
def elements (v : Value) : Except Fault (List Value) :=
  match v.elements? with
  | some items => .ok items
  | none => .error (.notIterable v.typeName)

/-- The text of a value that something is looked for in. -/
def searched (v : Value) : Except Fault String :=
  match v with
  | .text s => .ok s
  | .bytes _ | .buffer _ =>
    .error (.unsuitable "cannot use a string pattern on a bytes-like object")
  | v => .error (.unsuitable ("expected string or bytes-like object, got '" ++ v.typeName ++ "'"))

end RequestLog.Value
