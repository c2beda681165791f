import RequestLog.Number.Binary64

/-!
# Decimal forms of binary fractions

`shortest` is the decimal number of fewest digits that reads back as a given binary fraction, and
among those the nearest to it. `Layout.write` writes such a number, positionally or with an
exponent.
-/

namespace RequestLog

/-- The decimal number `coefficient · 10 ^ exponent`. -/
structure Decimal where
  coefficient : Nat
  exponent : Int
  deriving DecidableEq, Repr

namespace Decimal

/-- The number as a quotient. -/
def ratio (d : Decimal) : Nat × Nat :=
  if 0 ≤ d.exponent then (d.coefficient * Nat.pow 10 d.exponent.toNat, 1)
  else (d.coefficient, Nat.pow 10 (-d.exponent).toNat)

/-- Moves the zeros at the end of the coefficient into the exponent, at most `fuel` of them. -/
def strip : Nat → Decimal → Decimal
  | 0, d => d
  | fuel + 1, d =>
    if d.coefficient % 10 = 0 ∧ d.coefficient ≠ 0 then
      strip fuel ⟨d.coefficient / 10, d.exponent + 1⟩
    else d

/-- The decimal digits of the coefficient. -/
def digits (d : Decimal) : List Char := Nat.toDigits 10 d.coefficient

/-- Where the point stands: the value is the digits after a point, times ten to this power. -/
def point (d : Decimal) : Int := d.digits.length + d.exponent

/-- The quotients that read back as one binary fraction lie between two bounds, given over one
denominator; the bounds read back too when the mantissa is even. -/
structure Range where
  low : Nat
  value : Nat
  high : Nat
  denominator : Nat
  closed : Bool

/-- The range of a positive binary fraction. The gap below a power of two is half the gap above. -/
def range (mantissa : Nat) (exponent : Int) : Range :=
  let below :=
    if mantissa = Nat.pow 2 52 ∧ Binary64.leastExponent < exponent then 1 else 2
  let (unit, den) := Binary64.ratio 1 (exponent - 2)
  ⟨unit * (4 * mantissa - below), unit * (4 * mantissa), unit * (4 * mantissa + 2), den,
    mantissa % 2 = 0⟩

/-- The quotient `num / den` lies in the range. -/
def Range.contains (r : Range) (num den : Nat) : Bool :=
  let x := num * r.denominator
  if r.closed then decide (r.low * den ≤ x) && decide (x ≤ r.high * den)
  else decide (r.low * den < x) && decide (x < r.high * den)

/-- A power of ten that the quotient does not reach, at most one too large. -/
def magnitude (num den : Nat) : Int :=
  let guess : Int := (((num.log2 : Int) - den.log2 - 1) * 30103).fdiv 100000
  let below (k : Int) : Bool :=
    if 0 ≤ k then decide (num < den * Nat.pow 10 k.toNat)
    else decide (num * Nat.pow 10 (-k).toNat < den)
  if below guess then guess
  else if below (guess + 1) then guess + 1
  else if below (guess + 2) then guess + 2
  else guess + 3

/-- The multiple of `10 ^ e` in the range that is nearest to its value, if there is one; of two
equally near, the one with an even last digit. -/
def nearest? (r : Range) (e : Int) : Option Decimal :=
  let (n, d) :=
    if 0 ≤ e then (r.value, r.denominator * Nat.pow 10 e.toNat)
    else (r.value * Nat.pow 10 (-e).toNat, r.denominator)
  let q := n / d
  let holds (c : Nat) : Bool := let (x, y) := ratio ⟨c, e⟩; r.contains x y
  let best := Binary64.roundQuotient n d
  let other := if best = q then q + 1 else q
  if holds best then some ⟨best, e⟩
  else if holds other then some ⟨other, e⟩
  else none

/-- The first number found, for one digit more at a time from the given power of ten down. -/
def search (r : Range) : Nat → Int → Decimal
  | 0, e => (nearest? r e).getD ⟨0, 0⟩
  | fuel + 1, e =>
    match nearest? r e with
    | some d => d
    | none => search r fuel (e - 1)

/-- The fewest digits that read back as a finite binary fraction. -/
def shortest (mantissa : Nat) (exponent : Int) : Decimal :=
  if mantissa = 0 then ⟨0, 0⟩
  else
    let r := range mantissa exponent
    strip 400 (search r 17 (magnitude r.value r.denominator - 1))

end Decimal

/-- How decimal numbers are laid out: positionally while the point stands after `fewest` and up to
`most`, and otherwise with an exponent of at least `exponentDigits` digits. -/
structure Layout where
  fewest : Int
  most : Int
  exponentDigits : Nat

namespace Layout

/-- The layout of fractional values: positional from `0.0001` and below `10 ^ 16`, with two digits
of exponent elsewhere. -/
def standard : Layout := ⟨-4, 16, 2⟩

/-- Digits with a point at the given place, and a digit on both sides of it. -/
def positional (digits : List Char) (point : Int) : List Char :=
  if point ≤ 0 then '0' :: '.' :: (List.replicate (-point).toNat '0' ++ digits)
  else
    let padded := digits ++ List.replicate (point.toNat - digits.length) '0'
    let fraction := padded.drop point.toNat
    padded.take point.toNat ++ '.' :: (if fraction = [] then ['0'] else fraction)

/-- Digits with a point after the first of several, and the exponent. -/
def scientific (l : Layout) (digits : List Char) (point : Int) : List Char :=
  let head := match digits with
    | [] => []
    | [c] => [c]
    | c :: rest => c :: '.' :: rest
  let e := point - 1
  let written := Nat.toDigits 10 e.natAbs
  head ++ 'e' :: (if e < 0 then '-' else '+') ::
    (List.replicate (l.exponentDigits - written.length) '0' ++ written)

/-- The written form of a decimal number. -/
def write (l : Layout) (d : Decimal) : List Char :=
  if d.coefficient = 0 then positional ['0'] 1
  else if l.fewest < d.point ∧ d.point ≤ l.most then positional d.digits d.point
  else l.scientific d.digits d.point

end Layout

/-- The written form of a fractional value in a layout. -/
def Binary64.textBy (l : Layout) : Binary64 → List Char
  | .finite s m e => (if s then ['-'] else []) ++ l.write (Decimal.shortest m e)
  | .infinite s => if s then ['-', 'i', 'n', 'f'] else ['i', 'n', 'f']
  | .nan => ['n', 'a', 'n']

/-- The written form of a fractional value. -/
def Binary64.text (x : Binary64) : String := String.ofList (x.textBy Layout.standard)

end RequestLog
