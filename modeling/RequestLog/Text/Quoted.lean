import RequestLog.Text.Latin
import RequestLog.Text.Printable

/-!
# Quoted texts and bytes

The form in which a text stands inside a message. It is enclosed in apostrophes, or in double
quotes when it has an apostrophe and no double quote; the enclosing mark and the backslash are
written after a backslash, and a character that is not printable by its code.
-/

namespace RequestLog.Text.Quoted

/-- The digits of `n` in base sixteen, at least `width` of them. -/
def hexDigits (width n : Nat) : List Char :=
  let digits := Nat.toDigits 16 n
  List.replicate (width - digits.length) '0' ++ digits

/-- A character by its code: two, four or eight digits, whichever suffice first. -/
def byCode (c : Char) : List Char :=
  if c.toNat < 0x100 then '\\' :: 'x' :: hexDigits 2 c.toNat
  else if c.toNat < 0x10000 then '\\' :: 'u' :: hexDigits 4 c.toNat
  else '\\' :: 'U' :: hexDigits 8 c.toNat

/-- The mark that encloses a text: an apostrophe, unless that would have to be escaped and a
double quote would not. -/
def markFor (cs : List Char) : Char :=
  if cs.contains '\'' && !cs.contains '"' then '"' else '\''

/-- One character inside quotation marks. -/
def escape (marked printable : Char → Bool) (c : Char) : List Char :=
  if marked c || c = '\\' then ['\\', c]
  else if c = '\n' then ['\\', 'n']
  else if c = '\r' then ['\\', 'r']
  else if c = '\t' then ['\\', 't']
  else if printable c then [c]
  else byCode c

/-- The characters inside their enclosing marks, with a backslash before those that `marked` holds
of, given the enclosing mark. -/
def quoteBy (marked : Char → Char → Bool) (printable : Char → Bool) (cs : List Char) : List Char :=
  let mark := markFor cs
  mark :: (cs.flatMap (escape (marked mark) printable) ++ [mark])

/-- A text in quotation marks. -/
def quote (s : String) : String :=
  String.ofList (quoteBy (fun mark c => c = mark) isPrintable s.toList)

/-- The characters that stand for themselves among bytes. -/
def isPlain (c : Char) : Bool := decide (0x20 ≤ c.toNat) && decide (c.toNat < 0x7f)

/-- The characters that some bytes number. -/
def characters (bytes : Bytes) : List Char := bytes.map fun b => Char.ofNat b.toNat

/-- Bytes in quotation marks, after the letter that tells them from a text. -/
def quoteBytes (bytes : Bytes) : String :=
  String.ofList ('b' :: quoteBy (fun mark c => c = mark) isPlain (characters bytes))

/-- Bytes that may change, in their own quotation: an apostrophe always has its backslash. -/
def quoteBuffer (bytes : Bytes) : String :=
  String.ofList ("bytearray(b".toList ++
    quoteBy (fun _ c => c = '\'') isPlain (characters bytes) ++ [')'])

end RequestLog.Text.Quoted
