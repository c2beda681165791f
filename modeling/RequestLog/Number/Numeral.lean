import RequestLog.Number.Binary64
import RequestLog.Text.Blank
import RequestLog.Text.Digit

/-!
# Numerals

Texts read as numbers. Blanks may surround a numeral, its digits may be of any script, and a
single underscore may stand between two digits. `readInt` reads integers, of no more than 4300
digits; `readFloat` reads fractional values, with a point, an exponent, or the words for infinity
and for no number.
-/

namespace RequestLog.Numeral

/-- The ASCII blanks, which alone may surround a numeral once other blanks have become spaces. -/
def isSpace (c : Char) : Bool := c = ' ' || (decide (9 ≤ c.toNat) && decide (c.toNat ≤ 13))

/-- A character in ASCII: digits of other scripts become the ASCII ones, and blanks beyond ASCII
spaces. What has no such form becomes a question mark, which no numeral contains. -/
def toAscii (c : Char) : Char :=
  if c.toNat < 127 then c
  else if Text.isBlank c then ' '
  else
    match Text.digitValue? c with
    | some d => Char.ofNat (48 + d)
    | none => '?'

/-- The characters of a numeral without the blanks around it. -/
def body (s : String) : List Char := Text.trimBy isSpace (s.toList.map toAscii)

/-- The value of ASCII digits after those read already. -/
def valueOf (digits : List Char) : Nat := digits.foldl (fun n c => 10 * n + (c.toNat - 48)) 0

/-- Takes a sequence of digits in which single underscores may stand between digits: the digits
and the rest. An underscore that no digit follows leaves nothing valid. -/
def takeDigits : List Char → Option (List Char × List Char)
  | [] => some ([], [])
  | '_' :: c :: rest =>
    if c.isDigit then (takeDigits (c :: rest)) else none
  | ['_'] => none
  | c :: rest =>
    if c.isDigit then (takeDigits rest).map fun p => (c :: p.1, p.2) else some ([], c :: rest)

/-- What a text that should be an integer can be instead. -/
inductive IntIssue where
  | malformed
  | tooLong (digits : Nat)
  deriving DecidableEq, Repr

/-- The most digits that an integer numeral may have. -/
def mostDigits : Nat := 4300

/-- A sign at the beginning: whether it is a minus, and the rest. -/
def sign : List Char → Bool × List Char
  | '-' :: rest => (true, rest)
  | '+' :: rest => (false, rest)
  | cs => (false, cs)

/-- The integer that a text stands for. -/
def readInt (s : String) : Except IntIssue Int :=
  let (negative, cs) := sign (body s)
  match cs with
  | '_' :: _ => .error .malformed
  | _ =>
    match takeDigits cs with
    | none | some ([], _) => .error .malformed
    | some (digits, rest) =>
      if mostDigits < digits.length then .error (.tooLong digits.length)
      else if rest ≠ [] then .error .malformed
      else .ok (if negative then -(valueOf digits : Int) else valueOf digits)

/-- Removes the underscores of a text in which each stands between two digits. -/
def dropUnderscores : Char → List Char → Option (List Char)
  | last, [] => if last = '_' then none else some []
  | last, c :: rest =>
    if c = '_' then if last.isDigit then dropUnderscores c rest else none
    else if last = '_' && !c.isDigit then none
    else (dropUnderscores c rest).map (c :: ·)

/-- The value of `coefficient · 10 ^ exponent`. An exponent that carries it out of range by far is
not multiplied out. -/
def fractionOf (negative : Bool) (coefficient : Nat) (exponent : Int) : Binary64 :=
  let size : Int := (Nat.toDigits 10 coefficient).length + exponent
  if coefficient = 0 ∨ size < -400 then .ofRatio negative 0 1
  else if 400 < size then .infinite negative
  else if 0 ≤ exponent then .ofRatio negative (coefficient * Nat.pow 10 exponent.toNat) 1
  else .ofRatio negative coefficient (Nat.pow 10 (-exponent).toNat)

/-- The exponent part of a fractional numeral, which may be missing. -/
def readExponent : List Char → Option Int
  | [] => some 0
  | c :: rest =>
    if c = 'e' ∨ c = 'E' then
      let (negative, digits) := sign rest
      if digits = [] ∨ digits.any (!·.isDigit) then none
      else some (if negative then -(valueOf digits : Int) else valueOf digits)
    else none

/-- The fractional value that an unsigned text without underscores stands for. -/
def readUnsigned (negative : Bool) (cs : List Char) : Option Binary64 :=
  let word := String.ofList (cs.map Char.toLower)
  if word = "inf" ∨ word = "infinity" then some (.infinite negative)
  else if word = "nan" then some .nan
  else
    let whole := cs.takeWhile Char.isDigit
    let (fraction, rest) := match cs.dropWhile Char.isDigit with
      | '.' :: tail => (tail.takeWhile Char.isDigit, tail.dropWhile Char.isDigit)
      | tail => ([], tail)
    if whole = [] ∧ fraction = [] then none
    else (readExponent rest).map fun e =>
      fractionOf negative (valueOf (whole ++ fraction)) (e - fraction.length)

/-- The fractional value that a text stands for. -/
def readFloat (s : String) : Option Binary64 := do
  let cs ← dropUnderscores ' ' (body s)
  let (negative, cs) := sign cs
  readUnsigned negative cs

end RequestLog.Numeral
