import RequestLog.Number.Binary64

/-!
# Rounding to decimal places

A fractional value is rounded to a number of decimal places by the exact value that it stands for;
a half goes to the even neighbour, and the sign of a zero is kept. A negative number of places
rounds to tens, hundreds and so on.
-/

namespace RequestLog.Binary64

/-- More places than this leave every value as it is. -/
def mostPlaces : Int := 323

/-- Fewer places than this leave a zero. -/
def fewestPlaces : Int := -309

/-- The value at `places` decimal places, or nothing when it is too large to be represented. -/
def roundTo (x : Binary64) (places : Int) : Option Binary64 :=
  match x with
  | .finite s m e =>
    if mostPlaces < places then some x
    else if places < fewestPlaces then some (ofRatio s 0 1)
    else
      let (n, d) := ratio m e
      let y :=
        if 0 ≤ places then
          let ten := Nat.pow 10 places.toNat
          ofRatio s (roundQuotient (n * ten) d) ten
        else
          let ten := Nat.pow 10 (-places).toNat
          ofRatio s (roundQuotient n (d * ten) * ten) 1
      if y.isFinite then some y else none
  | _ => some x

/-- The integer nearest to a finite value, the even one of two. -/
def roundToInt (negative : Bool) (mantissa : Nat) (exponent : Int) : Int :=
  let (n, d) := ratio mantissa exponent
  let q : Int := roundQuotient n d
  if negative then -q else q

end RequestLog.Binary64
