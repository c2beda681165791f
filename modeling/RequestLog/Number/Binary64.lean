/-!
# Binary fractions of 53 bits

Fractional values are the numbers `m · 2 ^ e` with `m < 2 ^ 53` and `-1074 ≤ e ≤ 971`, with two
infinities, a zero of either sign, and a value that is no number. `ofRatio` gives the value nearest
to a quotient, and of two equally near the one with even `m`. All arithmetic is exact, on integers.
-/

namespace RequestLog

/-- A binary fraction: `mantissa · 2 ^ exponent` with a sign, an infinity, or no number. -/
inductive Binary64 where
  | finite (negative : Bool) (mantissa : Nat) (exponent : Int)
  | infinite (negative : Bool)
  | nan
  deriving DecidableEq, Repr

namespace Binary64

/-- The integer nearest to `num / den`, and of two equally near the even one. -/
def roundQuotient (num den : Nat) : Nat :=
  let q := num / den
  let r := num % den
  if 2 * r < den then q
  else if den < 2 * r then q + 1
  else q + q % 2

/-- The quotient `num / (den · 2 ^ e)` as numerator and denominator. -/
def scale (num den : Nat) (e : Int) : Nat × Nat :=
  if 0 ≤ e then (num, den * Nat.pow 2 e.toNat) else (num * Nat.pow 2 (-e).toNat, den)

/-- The least exponent. -/
def leastExponent : Int := -1074

/-- The greatest exponent. -/
def greatestExponent : Int := 971

/-- The exponent at which `num / den` has a mantissa of 53 bits, or the least exponent if that is
larger. -/
def exponentOf (num den : Nat) : Int :=
  let guess : Int := (num.log2 : Int) - den.log2 - 53
  let (n, d) := scale num den guess
  max leastExponent (if n / d < Nat.pow 2 53 then guess else guess + 1)

/-- The value nearest to `num / den`. -/
def ofRatio (negative : Bool) (num den : Nat) : Binary64 :=
  if num = 0 then .finite negative 0 leastExponent
  else
    let e := exponentOf num den
    let (n, d) := scale num den e
    let m := roundQuotient n d
    let (m, e) := if m = Nat.pow 2 53 then (Nat.pow 2 52, e + 1) else (m, e)
    if greatestExponent < e then .infinite negative else .finite negative m e

/-- The value nearest to an integer. -/
def ofInt (n : Int) : Binary64 := ofRatio (decide (n < 0)) n.natAbs 1

/-- The value is a number other than the infinities. -/
def isFinite : Binary64 → Bool
  | .finite .. => true
  | _ => false

/-- A finite value counted in the smallest positive one. -/
def units (negative : Bool) (mantissa : Nat) (exponent : Int) : Int :=
  let n : Int := mantissa * Nat.pow 2 (exponent - leastExponent).toNat
  if negative then -n else n

/-- The two are the same number; a zero equals the zero of the other sign. -/
def same : Binary64 → Binary64 → Bool
  | .finite s m e, .finite s' m' e' => units s m e == units s' m' e'
  | .infinite s, .infinite s' => s == s'
  | _, _ => false

/-- The value is exactly that integer. -/
def isInt : Binary64 → Int → Bool
  | .finite s m e, n => units s m e == n * Nat.pow 2 (-leastExponent).toNat
  | _, _ => false

/-- The value is a zero. -/
def isZero : Binary64 → Bool
  | .finite _ m _ => m == 0
  | _ => false

/-- The exact quotient that a finite value is, without its sign. -/
def ratio (mantissa : Nat) (exponent : Int) : Nat × Nat :=
  if 0 ≤ exponent then (mantissa * Nat.pow 2 exponent.toNat, 1)
  else (mantissa, Nat.pow 2 (-exponent).toNat)

/-- A finite value divided by a positive integer. -/
def divNat : Binary64 → Nat → Binary64
  | .finite s m e, k => let (n, d) := ratio m e; ofRatio s n (d * k)
  | x, _ => x

end RequestLog.Binary64
