import RequestLog.Text.Latin

/-!
# UTF-8

Bytes read as UTF-8. `decode?` and `decode` read bytes that are well formed as a whole and refuse
all others; `decode` says where they go wrong. `decodeLossy` reads any bytes: a stretch that begins
a character and does not complete it, or a byte that begins none, becomes one replacement
character.
-/

namespace RequestLog.Text.Utf8

/-- The bytes of a text. -/
def encode (s : String) : Bytes := s.toUTF8.toList

/-- The text of well-formed bytes. -/
def decode? (bytes : Bytes) : Option String := String.fromUTF8? bytes.toByteArray

/-- What a first byte says of its character: how many bytes follow, between which bounds the next
one lies, and the bits that the first one carries. -/
structure Lead where
  following : Nat
  low : Nat
  high : Nat
  bits : Nat

/-- The first bytes of characters of more than one byte. The bounds keep out overlong forms,
surrogates and numbers beyond the last character. -/
def lead? (b : Nat) : Option Lead :=
  if b < 0xc2 then none
  else if b < 0xe0 then some ⟨1, 0x80, 0xbf, b - 0xc0⟩
  else if b = 0xe0 then some ⟨2, 0xa0, 0xbf, 0⟩
  else if b = 0xed then some ⟨2, 0x80, 0x9f, 0xd⟩
  else if b < 0xf0 then some ⟨2, 0x80, 0xbf, b - 0xe0⟩
  else if b = 0xf0 then some ⟨3, 0x90, 0xbf, 0⟩
  else if b < 0xf4 then some ⟨3, 0x80, 0xbf, b - 0xf0⟩
  else if b = 0xf4 then some ⟨3, 0x80, 0x8f, 4⟩
  else none

/-- Takes the bytes that complete a character, as far as they are there. -/
def complete : Nat → Nat → Nat → Nat → Bytes → Option Nat × Bytes
  | 0, _, _, bits, bytes => (some bits, bytes)
  | _ + 1, _, _, _, [] => (none, [])
  | n + 1, low, high, bits, b :: rest =>
    if low ≤ b.toNat ∧ b.toNat ≤ high then
      complete n 0x80 0xbf (bits * 0x40 + (b.toNat - 0x80)) rest
    else (none, b :: rest)

/-- Completing a character only takes bytes away. -/
theorem length_complete_le (n low high bits : Nat) (bytes : Bytes) :
    (complete n low high bits bytes).2.length ≤ bytes.length := by
  fun_induction complete n low high bits bytes with
  | case1 => simp
  | case2 => simp
  | case3 _ _ _ _ b rest _ ih => exact Nat.le_trans ih (by simp)
  | case4 => simp

/-- The first character of some bytes, or nothing where a replacement stands, and the rest. -/
def next (b : UInt8) (rest : Bytes) : Option Nat × Bytes :=
  if b.toNat < 0x80 then (some b.toNat, rest)
  else
    match lead? b.toNat with
    | some l => complete l.following l.low l.high l.bits rest
    | none => (none, rest)

/-- The first character takes at least the first byte. -/
theorem length_next_le (b : UInt8) (rest : Bytes) : (next b rest).2.length ≤ rest.length := by
  unfold next
  split
  · simp
  · split
    · exact length_complete_le ..
    · simp

/-- The characters of any bytes, with a replacement for what is no character. -/
def decodeLossy : Bytes → List Char
  | [] => []
  | b :: rest =>
    (match (next b rest).1 with
      | some n => Char.ofNat n
      | none => Char.ofNat 0xfffd) :: decodeLossy (next b rest).2
termination_by bytes => bytes.length
decreasing_by exact Nat.lt_succ_of_le (length_next_le b rest)

/-- How bytes can go wrong. -/
inductive Flaw where
  /-- a byte begins no character -/
  | noStart
  /-- a character that has begun does not go on -/
  | noContinuation
  /-- the end comes before a character is complete -/
  | cutShort
  deriving DecidableEq, Repr

/-- A stretch of bytes that is no character: its first byte, where that stands, and how many bytes
there are up to where a character could begin again. -/
structure Defect where
  flaw : Flaw
  first : UInt8
  position : Nat
  length : Nat
  deriving DecidableEq, Repr

/-- The stretch that begins with a byte and has ended before other bytes. -/
def defectAt (position : Nat) (b : UInt8) (rest after : Bytes) : Defect :=
  let flaw := if (lead? b.toNat).isNone then .noStart
    else if after.isEmpty then .cutShort else .noContinuation
  ⟨flaw, b, position, 1 + (rest.length - after.length)⟩

/-- The first stretch that is no character, where the bytes stand from a position on. -/
def firstDefectFrom? (position : Nat) : Bytes → Option Defect
  | [] => none
  | b :: rest =>
    match (next b rest).1 with
    | some _ =>
      firstDefectFrom? (position + 1 + (rest.length - (next b rest).2.length)) (next b rest).2
    | none => some (defectAt position b rest (next b rest).2)
termination_by bytes => bytes.length
decreasing_by exact Nat.lt_succ_of_le (length_next_le b rest)

/-- The text of well-formed bytes, or the first stretch of others that is no character. -/
def decode (bytes : Bytes) : Except Defect String :=
  match firstDefectFrom? 0 bytes with
  | none => .ok (String.ofList (decodeLossy bytes))
  | some d => .error d

end RequestLog.Text.Utf8
