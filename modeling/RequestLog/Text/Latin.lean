/-!
# One byte per character

The first 256 characters, each written as one byte. Header names and values, paths and query
strings arrive as such bytes and are read by `decode`; `encode` is its inverse and says where a
text has characters that no byte stands for.
-/

namespace RequestLog

/-- A sequence of bytes. -/
abbrev Bytes := List UInt8

end RequestLog

namespace RequestLog.Text.Latin

/-- The text whose characters the bytes number. -/
def decode (bytes : Bytes) : String := String.ofList (bytes.map fun b => Char.ofNat b.toNat)

/-- The character is one of the first 256. -/
def isEncodable (c : Char) : Bool := decide (c.toNat < 256)

/-- A stretch of a text that no bytes stand for: its first character, where that stands, and how
many such characters there are in a row. -/
structure Unencodable where
  char : Char
  start : Nat
  length : Nat
  deriving DecidableEq, Repr

/-- The first stretch of characters that do not fit. -/
def firstUnencodable? (fits : Char → Bool) (cs : List Char) : Option Unencodable :=
  match cs.dropWhile fits with
  | [] => none
  | c :: rest =>
    some ⟨c, (cs.takeWhile fits).length, ((c :: rest).takeWhile fun d => !fits d).length⟩

/-- The bytes of a text, or the first stretch that has none. -/
def encode (s : String) : Except Unencodable Bytes :=
  match firstUnencodable? isEncodable s.toList with
  | some u => .error u
  | none => .ok (s.toList.map fun c => UInt8.ofNat c.toNat)

end RequestLog.Text.Latin
