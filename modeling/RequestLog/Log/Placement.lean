import RequestLog.Number.Decimal
import RequestLog.Text.Quoted

/-!
# Placements

How a field of a log entry stands in a line: by a letter that says in which form, and by flags, a
width and a precision. A placement whose letter does not suit the field writes nothing. In a
fractional form an integer stands as the nearest binary fraction, and every number is rounded to the
digits asked for.
-/

namespace RequestLog.Log

/-- A field of an entry: a text, an integer, a binary fraction, or something else, which has one
form. -/
inductive FieldValue where
  | text (s : String)
  | number (n : Int)
  | fraction (x : Binary64)
  | form (s : String)

/-- A field so that its kind shows. -/
def FieldValue.literal : FieldValue → String
  | text s => Text.Quoted.quote s
  | number n => toString n
  | fraction x => x.text
  | form s => s

/-- How a field is written: its flags, its width, its precision and its letter. -/
structure Placement where
  flags : List Char
  width : Nat
  precision : Option Nat
  conversion : Char

namespace Placement

/-- The flag is given. -/
def has (p : Placement) (flag : Char) : Bool := p.flags.contains flag

/-- Fills a text up to the width: on the left, or on the right if the flags say so. -/
def pad (p : Placement) (cs : List Char) : List Char :=
  let blanks := List.replicate (p.width - cs.length) ' '
  if p.has '-' then cs ++ blanks else blanks ++ cs

/-- Cuts a text to the precision and fills it up to the width. -/
def fit (p : Placement) (s : String) : List Char :=
  p.pad (p.precision.elim s.toList s.toList.take)

/-- A text with every character outside ASCII by its code. -/
def inAscii (s : String) : String :=
  String.ofList (s.toList.flatMap fun c => if c.toNat < 0x80 then [c] else Text.Quoted.byCode c)

/-- Writes a number with its sign, filled up with zeros if the flags say so. -/
def padNumber (p : Placement) (negative : Bool) (mark digits : List Char) : List Char :=
  let sign := if negative then ['-'] else if p.has '+' then ['+']
    else if p.has ' ' then [' '] else []
  if p.has '0' && !p.has '-' then
    sign ++ mark ++ List.replicate (p.width - (sign ++ mark ++ digits).length) '0' ++ digits
  else p.pad (sign ++ mark ++ digits)

/-- Writes an integer in a base, with at least as many digits as the precision says. -/
def integer (p : Placement) (base : Nat) (mark : List Char) (n : Int) : List Char :=
  let digits := Nat.toDigits base n.natAbs
  let digits := List.replicate (p.precision.getD 0 - digits.length) '0' ++ digits
  p.padNumber (decide (n < 0)) (if p.has '#' then mark else []) digits

/-! ### Fractional forms -/

/-- The positive quotient `num / den` rounded to so many digits, and the power of ten that the first
of them counts. A zero counts as ones. -/
def significant (count num den : Nat) : List Char × Int :=
  -- The quotient in units of the last digit, if the first one counts that power of ten.
  let roundedAt (e : Int) : Nat :=
    let unit := e - count + 1
    if 0 ≤ unit then Binary64.roundQuotient num (den * Nat.pow 10 unit.toNat)
    else Binary64.roundQuotient (num * Nat.pow 10 (-unit).toNat) den
  if num = 0 then (List.replicate count '0', 0)
  else
    let most := Decimal.magnitude num den - 1
    let e := if roundedAt most < Nat.pow 10 (count - 1) then most - 1 else most
    let digits := Nat.toDigits 10 (roundedAt e)
    (digits.take count, e + (digits.length - count : Nat))

/-- Digits behind a point; without any the point stands only if the flags say so. -/
def behindPoint (p : Placement) (digits : List Char) : List Char :=
  if digits = [] ∧ !p.has '#' then [] else '.' :: digits

/-- The digits without the zeros at their end, unless the flags keep them. -/
def shortened (p : Placement) (digits : List Char) : List Char :=
  if p.has '#' then digits else (digits.reverse.dropWhile (· = '0')).reverse

/-- The exponent of a scientific form. -/
def exponent (e : Int) : List Char :=
  ['e', if e < 0 then '-' else '+'] ++ (if e.natAbs < 10 then ['0'] else []) ++
    Nat.toDigits 10 e.natAbs

/-- A quotient with as many digits behind the point as the precision says. -/
def fixedForm (p : Placement) (num den : Nat) : List Char :=
  let places := p.precision.getD 6
  let digits := Nat.toDigits 10 (Binary64.roundQuotient (num * Nat.pow 10 places) den)
  let digits := List.replicate (places + 1 - digits.length) '0' ++ digits
  let front := digits.length - places
  digits.take front ++ p.behindPoint (digits.drop front)

/-- A quotient with one digit in front of the point and an exponent. -/
def scientificForm (p : Placement) (num den : Nat) : List Char :=
  let (digits, e) := significant (p.precision.getD 6 + 1) num den
  digits.take 1 ++ p.behindPoint (digits.drop 1) ++ exponent e

/-- A quotient with as many digits as the precision says, and an exponent if it has more in front
of the point, or many zeros behind it. -/
def generalForm (p : Placement) (num den : Nat) : List Char :=
  let count := max 1 (p.precision.getD 6)
  let (digits, e) := significant count num den
  if -4 ≤ e ∧ e < count then
    -- A number below one has a zero in front of the point, and zeros behind it.
    let digits := List.replicate (-e).toNat '0' ++ digits
    let front := 1 + e.toNat
    digits.take front ++ p.behindPoint (p.shortened (digits.drop front))
  else digits.take 1 ++ p.behindPoint (p.shortened (digits.drop 1)) ++ exponent e

/-- Writes a binary fraction in a fractional form. What is no finite number has no digits. -/
def fraction (p : Placement) (form : Placement → Nat → Nat → List Char) (x : Binary64) :
    List Char :=
  match x with
  | .finite s m e => let (num, den) := Binary64.ratio m e; p.padNumber s [] (form p num den)
  | .infinite s => p.padNumber s [] ['i', 'n', 'f']
  | .nan => p.padNumber false [] ['n', 'a', 'n']

/-- Writes a binary fraction in the fractional form that the letter stands for, if it does. -/
def fractional? (p : Placement) (x : Binary64) : Option (List Char) :=
  match p.conversion with
  | 'f' => some (p.fraction fixedForm x)
  | 'e' => some (p.fraction scientificForm x)
  | 'g' => some (p.fraction generalForm x)
  | 'F' => some ((p.fraction fixedForm x).map Char.toUpper)
  | 'E' => some ((p.fraction scientificForm x).map Char.toUpper)
  | 'G' => some ((p.fraction generalForm x).map Char.toUpper)
  | _ => none

/-! ### Writing -/

/-- Writes a number, if the letter suits one. -/
def writeNumber? (p : Placement) (n : Int) : Option (List Char) :=
  match p.conversion with
  | 's' | 'r' | 'a' => some (p.fit (toString n))
  | 'd' | 'i' | 'u' => some (p.integer 10 [] n)
  | 'o' => some (p.integer 8 ['0', 'o'] n)
  | 'x' => some (p.integer 16 ['0', 'x'] n)
  | 'X' => some ((p.integer 16 ['0', 'x'] n).map Char.toUpper)
  | 'c' => if 0 ≤ n ∧ n < 0x110000 then some (p.pad [Char.ofNat n.toNat]) else none
  | _ =>
    -- An integer has a fractional form if there is a finite fraction nearest to it.
    let nearest := Binary64.ofInt n
    if nearest.isFinite then p.fractional? nearest else none

/-- The integer part of a binary fraction, if it is a finite number. -/
def whole? : Binary64 → Option Int
  | .finite s m e =>
    let (num, den) := Binary64.ratio m e
    some (if s then -(num / den : Nat) else (num / den : Nat))
  | _ => none

/-- Writes a binary fraction, if the letter suits one. As an integer only its whole part is
written. -/
def writeFraction? (p : Placement) (x : Binary64) : Option (List Char) :=
  match p.conversion with
  | 's' | 'r' | 'a' => some (p.fit x.text)
  | 'd' | 'i' | 'u' => (whole? x).map (p.integer 10 [])
  | _ => p.fractional? x

/-- Writes a text, if the letter suits one. -/
def writeText? (p : Placement) (s : String) : Option (List Char) :=
  match p.conversion with
  | 's' => some (p.fit s)
  | 'r' => some (p.fit (Text.Quoted.quote s))
  | 'a' => some (p.fit (inAscii (Text.Quoted.quote s)))
  | 'c' => if s.length = 1 then some (p.pad s.toList) else none
  | _ => none

/-- Writes a field, if the letter suits it. -/
def write? (p : Placement) (v : FieldValue) : Option (List Char) :=
  match v with
  | .text s => p.writeText? s
  | .number n => p.writeNumber? n
  | .fraction x => p.writeFraction? x
  | .form s =>
    match p.conversion with
    | 's' | 'r' => some (p.fit s)
    | 'a' => some (p.fit (inAscii s))
    | _ => none

end Placement

end RequestLog.Log
