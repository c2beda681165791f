import RequestLog.Value.Basic

/-!
# Equality of values

Two values are equal when they stand for the same thing. A truth value, an integer and a
fractional value are equal when they are the same number; bytes are equal whether or not they may
change; mappings are equal whatever the order of their entries; and what is no number, like an
object known by its presentation only, equals nothing.
-/

namespace RequestLog.Value

/-- A value as a number. -/
inductive Numeric where
  | int (n : Int)
  | float (x : Binary64)

/-- The number that a value is. -/
def numeric? : Value → Option Numeric
  | bool b => some (.int (if b then 1 else 0))
  | int n => some (.int n)
  | float x => some (.float x)
  | _ => none

/-- The two are the same number. -/
def Numeric.same : Numeric → Numeric → Bool
  | .int a, .int b => a == b
  | .int n, .float x | .float x, .int n => x.isInt n
  | .float x, .float y => x.same y

/-- The bytes of a value. -/
def bytes? : Value → Option Bytes
  | bytes b | buffer b => some b
  | _ => none

/-- Equality of values other than collections. -/
def sameAtom (v w : Value) : Bool :=
  match numeric? v, numeric? w with
  | some a, some b => a.same b
  | none, none =>
    match bytes? v, bytes? w with
    | some a, some b => a == b
    | none, none =>
      match v, w with
      | absent, absent => true
      | text s, text t => s == t
      | moment m, moment m' => m.same m'
      | _, _ => false
    | _, _ => false
  | _, _ => false

mutual

/-- The two values are equal. -/
def same : Value → Value → Bool
  | list xs, w => match w with
    | list ys => sameItems xs ys
    | _ => false
  | tuple xs, w => match w with
    | tuple ys => sameItems xs ys
    | _ => false
  | mapping es, w => match w with
    | mapping fs => es.length == fs.length && sameEntries es fs
    | _ => false
  | v, w => sameAtom v w

/-- The two sequences are equal, value by value. -/
def sameItems : List Value → List Value → Bool
  | [], ys => ys.isEmpty
  | x :: xs, ys => match ys with
    | [] => false
    | y :: ys => same x y && sameItems xs ys

/-- Each entry of the first mapping has an equal one in the second. -/
def sameEntries : List (String × Value) → List (String × Value) → Bool
  | [], _ => true
  | (k, v) :: rest, fs =>
    (match fs.lookup k with
      | some w => same v w
      | none => false) && sameEntries rest fs

end

end RequestLog.Value
