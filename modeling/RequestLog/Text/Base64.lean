import RequestLog.Text.Ascii

/-!
# Base64

Three bytes as four digits of base 64. `encode` writes the standard form, padded to a multiple of
four; `read` goes through any text, drops what is no digit, and asks for no more padding than the
last group lacks. Where all padding stands at the end `decode?` does the same at once, and
`decode?_digits` says that reading takes writing back.
-/

namespace RequestLog.Text.Base64

/-- The digits in the order of their values. -/
def alphabet : List Char :=
  "ABCDEFGHIJKLMNOPQRSTUVWXYZabcdefghijklmnopqrstuvwxyz0123456789+/".toList

/-- The value of a digit. -/
def digitValue? (c : Char) : Option Nat :=
  if 'A' ≤ c ∧ c ≤ 'Z' then some (c.toNat - 65)
  else if 'a' ≤ c ∧ c ≤ 'z' then some (c.toNat - 71)
  else if '0' ≤ c ∧ c ≤ '9' then some (c.toNat + 4)
  else if c = '+' then some 62
  else if c = '/' then some 63
  else none

/-- The digit of a value. -/
def digit (n : Nat) : Char := alphabet.getD n '='

/-- The bytes of a sequence of digit values, which ends with `pads` padding signs. A last group of
two digits lacks two signs and one of three lacks one; the bits left over are dropped. -/
def bytes? (pads : Nat) : List Nat → Option Bytes
  | [] => some []
  | [_] => none
  | [a, b] => if 2 ≤ pads then some [UInt8.ofNat (a * 4 + b / 16)] else none
  | [a, b, c] =>
    if 1 ≤ pads then
      some [UInt8.ofNat (a * 4 + b / 16), UInt8.ofNat (b % 16 * 16 + c / 4)]
    else none
  | a :: b :: c :: d :: rest =>
    (bytes? pads rest).map fun bs =>
      UInt8.ofNat (a * 4 + b / 16) :: UInt8.ofNat (b % 16 * 16 + c / 4) ::
        UInt8.ofNat (c % 4 * 64 + d) :: bs

/-- The bytes of a text of digits, other signs among them, and `pads` padding signs after it. -/
def decode? (body : List Char) (pads : Nat) : Option Bytes :=
  bytes? pads (body.filterMap digitValue?)

/-- Why a text gives no bytes. -/
inductive Flaw where
  /-- a character is none of the first 128 -/
  | notAscii
  /-- one digit is left over -/
  | loneDigit
  /-- the last group lacks padding -/
  | unpadded
  deriving DecidableEq, Repr

/-- Goes through a text with the digits of the group that has begun and the padding signs seen in
it. A padding sign counts behind two digits at least, and where it completes the group nothing
after it is read. -/
def readFrom (group : List Nat) (pads : Nat) : List Char → Except Flaw Bytes
  | [] =>
    match group with
    | [] => .ok []
    | [_] => .error .loneDigit
    | _ => .error .unpadded
  | sign :: rest =>
    if sign = '=' then
      match group with
      | [a, b] =>
        if 1 ≤ pads then .ok [UInt8.ofNat (a * 4 + b / 16)]
        else readFrom group (pads + 1) rest
      | [a, b, c] =>
        .ok [UInt8.ofNat (a * 4 + b / 16), UInt8.ofNat (b % 16 * 16 + c / 4)]
      | _ => readFrom group pads rest
    else
      match digitValue? sign with
      | none => readFrom group pads rest
      | some d =>
        match group with
        | [a, b, c] =>
          (readFrom [] 0 rest).map fun bs =>
            UInt8.ofNat (a * 4 + b / 16) :: UInt8.ofNat (b % 16 * 16 + c / 4) ::
              UInt8.ofNat (c % 4 * 64 + d) :: bs
        | _ => readFrom (group ++ [d]) 0 rest

/-- The bytes of a text, or why it gives none. -/
def read (text : List Char) : Except Flaw Bytes :=
  if text.all Ascii.isAscii then readFrom [] 0 text else .error .notAscii

/-- The digits of some bytes. -/
def digits : Bytes → List Char
  | [] => []
  | [x] => [digit (x.toNat / 4), digit (x.toNat % 4 * 16)]
  | [x, y] =>
    [digit (x.toNat / 4), digit (x.toNat % 4 * 16 + y.toNat / 16), digit (y.toNat % 16 * 4)]
  | x :: y :: z :: rest =>
    digit (x.toNat / 4) :: digit (x.toNat % 4 * 16 + y.toNat / 16) ::
      digit (y.toNat % 16 * 4 + z.toNat / 64) :: digit (z.toNat % 64) :: digits rest

/-- How many padding signs complete the last group. -/
def padding (bytes : Bytes) : Nat := (3 - bytes.length % 3) % 3

/-- The standard form: the digits and the padding. -/
def encode (bytes : Bytes) : List Char := digits bytes ++ List.replicate (padding bytes) '='

set_option maxRecDepth 4000 in
/-- Every value below 64 has a digit, and the digit has that value. -/
theorem digitValue?_digit {n : Nat} (h : n < 64) : digitValue? (digit n) = some n := by
  revert n
  decide

/-- Reading the digits of some bytes with their padding gives the bytes. -/
theorem decode?_digits (bytes : Bytes) : decode? (digits bytes) (padding bytes) = some bytes := by
  have bound (x : UInt8) : x.toNat < 256 := x.toNat_lt
  suffices h : ∀ pads, padding bytes ≤ pads → decode? (digits bytes) pads = some bytes from
    h _ (Nat.le_refl _)
  fun_induction digits bytes with
  | case1 => intros; rfl
  | case2 x =>
    intro pads hp
    have hx := bound x
    have h2 : 2 ≤ pads := by simpa [padding] using hp
    have e : x.toNat / 4 * 4 + x.toNat % 4 * 16 / 16 = x.toNat := by omega
    simp only [decode?, List.filterMap_cons, List.filterMap_nil,
      digitValue?_digit (show x.toNat / 4 < 64 by omega),
      digitValue?_digit (show x.toNat % 4 * 16 < 64 by omega), bytes?, h2, if_true, e,
      UInt8.ofNat_toNat]
  | case3 x y =>
    intro pads hp
    have hx := bound x
    have hy := bound y
    have h1 : 1 ≤ pads := by simpa [padding] using hp
    have e1 : x.toNat / 4 * 4 + (x.toNat % 4 * 16 + y.toNat / 16) / 16 = x.toNat := by omega
    have e2 : (x.toNat % 4 * 16 + y.toNat / 16) % 16 * 16 + y.toNat % 16 * 4 / 4 = y.toNat := by
      omega
    simp only [decode?, List.filterMap_cons, List.filterMap_nil,
      digitValue?_digit (show x.toNat / 4 < 64 by omega),
      digitValue?_digit (show x.toNat % 4 * 16 + y.toNat / 16 < 64 by omega),
      digitValue?_digit (show y.toNat % 16 * 4 < 64 by omega), bytes?, h1, if_true, e1, e2,
      UInt8.ofNat_toNat]
  | case4 x y z rest ih =>
    intro pads hp
    have hx := bound x
    have hy := bound y
    have hz := bound z
    have hr : padding rest ≤ pads := by
      have : (rest.length + 1 + 1 + 1) % 3 = rest.length % 3 := by omega
      simpa [padding, this] using hp
    have e1 : x.toNat / 4 * 4 + (x.toNat % 4 * 16 + y.toNat / 16) / 16 = x.toNat := by omega
    have e2 : (x.toNat % 4 * 16 + y.toNat / 16) % 16 * 16 +
        (y.toNat % 16 * 4 + z.toNat / 64) / 4 = y.toNat := by omega
    have e3 : (y.toNat % 16 * 4 + z.toNat / 64) % 4 * 64 + z.toNat % 64 = z.toNat := by omega
    have ih' := ih pads hr
    simp only [decode?] at ih'
    simp only [decode?, List.filterMap_cons,
      digitValue?_digit (show x.toNat / 4 < 64 by omega),
      digitValue?_digit (show x.toNat % 4 * 16 + y.toNat / 16 < 64 by omega),
      digitValue?_digit (show y.toNat % 16 * 4 + z.toNat / 64 < 64 by omega),
      digitValue?_digit (show z.toNat % 64 < 64 by omega), bytes?, ih', Option.map_some,
      e1, e2, e3, UInt8.ofNat_toNat]

end RequestLog.Text.Base64
