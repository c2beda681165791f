import RequestLog.Text.Ascii
import RequestLog.Text.Cut
import RequestLog.Text.Utf8

/-!
# Fields of a query

A query is a sequence of fields between ampersands, each a name and a value on the two sides of
its first equals sign. In both a plus stands for a space, and a percent sign with two hexadecimal
digits for a byte; each stretch of ASCII characters is read as the UTF-8 that its bytes spell.
-/

namespace RequestLog.Text.Percent

/-- The value of a hexadecimal digit. -/
def hexValue? (c : Char) : Option Nat :=
  if '0' ≤ c ∧ c ≤ '9' then some (c.toNat - 48)
  else if 'a' ≤ c ∧ c ≤ 'f' then some (c.toNat - 87)
  else if 'A' ≤ c ∧ c ≤ 'F' then some (c.toNat - 55)
  else none

/-- The byte that two hexadecimal digits spell. -/
def byte? (high low : Char) : Option UInt8 := do
  let h ← hexValue? high
  let l ← hexValue? low
  return UInt8.ofNat (16 * h + l)

/-- The bytes that a stretch of ASCII characters spells. A percent sign that two hexadecimal digits
do not follow stands for itself. -/
def spelled : List Char → Bytes
  | [] => []
  | '%' :: h :: l :: rest =>
    match byte? h l with
    | some b => b :: spelled rest
    | none => 0x25 :: spelled (h :: l :: rest)
  | c :: rest => UInt8.ofNat c.toNat :: spelled rest
termination_by cs => cs.length

/-- Reads each stretch of ASCII characters, gathered last first in the first argument, by the bytes
that it spells, and keeps the other characters. -/
def decodeRuns : List Char → List Char → List Char
  | run, [] => Utf8.decodeLossy (spelled run.reverse)
  | run, c :: rest =>
    if Ascii.isAscii c then decodeRuns (c :: run) rest
    else Utf8.decodeLossy (spelled run.reverse) ++ c :: decodeRuns [] rest

/-- The text that a name or a value of a query spells. -/
def decode (cs : List Char) : String :=
  String.ofList (decodeRuns [] (cs.map fun c => if c = '+' then ' ' else c))

/-- What becomes of a field whose value is empty. -/
inductive Blanks where
  | dropped
  | kept

/-- The name and value of one field. -/
def field? (blanks : Blanks) (piece : List Char) : Option (String × String) :=
  if piece = [] then none
  else
    match cutAt '=' piece, blanks with
    | none, .dropped => none
    | none, .kept => some (decode piece, "")
    | some (_, []), .dropped => none
    | some (name, value), _ => some (decode name, decode value)

/-- The fields of a query in their order. -/
def fields (blanks : Blanks) (query : List Char) : List (String × String) :=
  (query.splitOn '&').filterMap (field? blanks)

/-- The value of the last field with a name. -/
def last? (name : String) (fields : List (String × String)) : Option String :=
  (fields.reverse.find? fun f => f.1 = name).map (·.2)

/-- A character that an address keeps as it is. -/
def isAddressChar (c : Char) : Bool :=
  c.isAlphanum || "_.-~:/%#?=@[]!$&'()*+,;".toList.contains c

/-- A byte behind a percent sign. -/
def quoteByte (b : UInt8) : List Char :=
  let digit (n : Nat) : Char := (Nat.digitChar n).toUpper
  ['%', digit (b.toNat / 16), digit (b.toNat % 16)]

/-- An address with every other character by its bytes. -/
def quoteAddress (s : String) : String :=
  String.ofList (s.toList.flatMap fun c =>
    if isAddressChar c then [c] else (Utf8.encode (String.singleton c)).flatMap quoteByte)

end RequestLog.Text.Percent
