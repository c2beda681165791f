import RequestLog.Text.Latin

/-!
# ASCII

The first 128 characters, each written as one byte. An address in bytes has to be of this kind, and
so has all that its query spells: `decode` says which byte stands for no character, and
`firstUnencodable?` which characters no byte stands for.
-/

namespace RequestLog.Text.Ascii

/-- The character is one of the first 128. -/
def isAscii (c : Char) : Bool := decide (c.toNat < 0x80)

/-- A byte that stands for no character, and where it stands. -/
structure Undecodable where
  byte : UInt8
  position : Nat
  deriving DecidableEq, Repr

/-- The byte stands for a character. -/
def isByte (b : UInt8) : Bool := decide (b.toNat < 0x80)

/-- The text that the bytes stand for, or the first of them that stands for no character. -/
def decode (bytes : Bytes) : Except Undecodable String :=
  match bytes.dropWhile isByte with
  | [] => .ok (Latin.decode bytes)
  | b :: _ => .error ⟨b, (bytes.takeWhile isByte).length⟩

/-- The first stretch of characters that no byte stands for. -/
def firstUnencodable? (s : String) : Option Latin.Unencodable :=
  Latin.firstUnencodable? isAscii s.toList

end RequestLog.Text.Ascii
