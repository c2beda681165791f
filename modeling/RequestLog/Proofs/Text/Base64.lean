import Mathlib.Algebra.Group.Nat.Defs
import Mathlib.Data.List.TakeDrop
import RequestLog.Text.Base64

/-!
# Base64 as bits

A digit of base 64 stands for six bits and a byte for eight. The bytes of a text are those whose
bits are the bits of its digits, as far as they fill whole bytes (`StandsFor`).
`decode?_eq_some_iff` says that these are the bytes that a text with its padding at the end is read
as, and `read_padded` that going through such a text comes to the same.
-/

namespace RequestLog.Text.Base64

/-- The lowest bits of a number, the highest of them first. -/
def bits : Nat → Nat → List Bool
  | 0, _ => []
  | w + 1, n => bits w (n / 2) ++ [n % 2 == 1]

/-- The bits of some bytes. -/
def bitsOfBytes (bytes : Bytes) : List Bool := bytes.flatMap fun b => bits 8 b.toNat

/-- The bits of some digits. -/
def bitsOfDigits (values : List Nat) : List Bool := values.flatMap (bits 6)

/-- So many digits and padding signs after them are whole groups. -/
def IsPadded (digits pads : Nat) : Prop :=
  digits % 4 = 0 ∨ digits % 4 = 2 ∧ 2 ≤ pads ∨ digits % 4 = 3 ∧ 1 ≤ pads

/-- The digits of a text. -/
def digitsIn (text : List Char) : List Char := text.filter (· ∈ alphabet)

/-- A text with padding signs after it stands for bytes: its digits and the padding are whole
groups, and the bits of the digits, as far as they fill whole bytes, are those of the bytes. -/
structure StandsFor (body : List Char) (pads : Nat) (bytes : Bytes) : Prop where
  padded : IsPadded (digitsIn body).length pads
  bits : bitsOfBytes bytes =
    (bitsOfDigits ((digitsIn body).map alphabet.idxOf)).take (8 * (6 * (digitsIn body).length / 8))

/-! ### Bits -/

/-- A number is written in as many bits as asked for. -/
theorem length_bits (w n : Nat) : (bits w n).length = w := by
  induction w generalizing n with
  | zero => rfl
  | succ w ih => simp [bits, ih]

/-- The bits of a number are those of its higher and of its lower part. -/
theorem bits_add {w low : Nat} (v high : Nat) (h : low < 2 ^ w) :
    bits (v + w) (high * 2 ^ w + low) = bits v high ++ bits w low := by
  induction w generalizing low with
  | zero =>
      have hlow : low = 0 := by simpa using h
      simp [bits, hlow]
  | succ w ih =>
      have hhalf : low / 2 < 2 ^ w := by omega
      have hhigh : high * 2 ^ (w + 1) = 2 * (high * 2 ^ w) := by
        rw [Nat.pow_succ, Nat.mul_comm (2 ^ w) 2, Nat.mul_left_comm]
      have hquotient : (high * 2 ^ (w + 1) + low) / 2 = high * 2 ^ w + low / 2 := by omega
      have hremainder : (high * 2 ^ (w + 1) + low) % 2 = low % 2 := by omega
      show bits (v + w) ((high * 2 ^ (w + 1) + low) / 2) ++ [_] = _
      rw [hquotient, hremainder, ih hhalf, List.append_assoc]
      rfl

/-- Numbers with the same bits are the same, where the bits are all of them. -/
theorem bits_injective {w m n : Nat} (hm : m < 2 ^ w) (hn : n < 2 ^ w) (h : bits w m = bits w n) :
    m = n := by
  induction w generalizing m n with
  | zero =>
      have hm' : m = 0 := by simpa using hm
      have hn' : n = 0 := by simpa using hn
      rw [hm', hn']
  | succ w ih =>
      obtain ⟨hhigh, hlow⟩ := List.append_inj h (by simp only [length_bits])
      have hhalves : m / 2 = n / 2 := ih (by omega) (by omega) hhigh
      have hparity : (m % 2 = 1) ↔ (n % 2 = 1) := by
        simpa [Bool.beq_eq_decide_eq] using hlow
      omega

/-- Each byte has eight bits. -/
theorem length_bitsOfBytes (bs : Bytes) : (bitsOfBytes bs).length = 8 * bs.length := by
  induction bs with
  | nil => rfl
  | cons b bs ih =>
      have hcons : bitsOfBytes (b :: bs) = bits 8 b.toNat ++ bitsOfBytes bs := rfl
      rw [hcons, List.length_append, length_bits, ih, List.length_cons]
      omega

/-- Bytes with the same bits are the same. -/
theorem bitsOfBytes_injective {bs cs : Bytes} (h : bitsOfBytes bs = bitsOfBytes cs) : bs = cs := by
  have hlength : bs.length = cs.length := by
    have hbits := congrArg List.length h
    rw [length_bitsOfBytes, length_bitsOfBytes] at hbits
    omega
  induction bs generalizing cs with
  | nil => exact (List.eq_nil_of_length_eq_zero hlength.symm).symm
  | cons b bs ih =>
      cases cs with
      | nil => cases hlength
      | cons c cs =>
          obtain ⟨hfirst, hrest⟩ :=
            List.append_inj (show bits 8 b.toNat ++ bitsOfBytes bs =
              bits 8 c.toNat ++ bitsOfBytes cs from h) (by simp only [length_bits])
          have hb : b = c := UInt8.toNat_inj.mp (bits_injective b.toNat_lt c.toNat_lt hfirst)
          rw [hb, ih hrest (Nat.succ.inj hlength)]

/-! ### Groups -/

section Groups

variable {a b c d pads : Nat} {values : List Nat} {bs : Bytes}

/-- The bits of a byte are those of the two digits that it is made of, each cut where a byte
ends. -/
theorem bits_byte {v w high low : Nat} (hw : v + w = 8) (hhigh : high < 2 ^ v)
    (hlow : low < 2 ^ w) :
    bits 8 (UInt8.ofNat (high * 2 ^ w + low)).toNat = bits v high ++ bits w low := by
  have hbyte : high * 2 ^ w + low < 2 ^ 8 := by
    calc high * 2 ^ w + low < (high + 1) * 2 ^ w := by rw [Nat.succ_mul]; omega
      _ ≤ 2 ^ v * 2 ^ w := Nat.mul_le_mul_right _ hhigh
      _ = 2 ^ 8 := by rw [← Nat.pow_add, hw]
  rw [UInt8.toNat_ofNat_of_lt' hbyte, ← hw, bits_add v high hlow]

/-- A digit is cut where a byte ends. -/
theorem bits_cut {v w : Nat} (hw : v + w = 6) (n : Nat) :
    bits 6 n = bits v (n / 2 ^ w) ++ bits w (n % 2 ^ w) := by
  have hlow : n % 2 ^ w < 2 ^ w := Nat.mod_lt _ (Nat.two_pow_pos w)
  rw [← hw, ← bits_add v (n / 2 ^ w) hlow, Nat.div_add_mod']

/-- Two digits are a byte and four bits more. -/
theorem bits_two (ha : a < 64) (hb : b < 64) :
    bits 6 a ++ bits 6 b = bits 8 (UInt8.ofNat (a * 4 + b / 16)).toNat ++ bits 4 (b % 16) := by
  have hfirst : bits 8 (UInt8.ofNat (a * 4 + b / 16)).toNat = bits 6 a ++ bits 2 (b / 16) :=
    bits_byte (v := 6) (w := 2) rfl ha (Nat.div_lt_of_lt_mul hb)
  have hcut : bits 6 b = bits 2 (b / 16) ++ bits 4 (b % 16) := bits_cut (v := 2) (w := 4) rfl b
  rw [hfirst, hcut, List.append_assoc]

/-- Three digits are two bytes and two bits more. -/
theorem bits_three (ha : a < 64) (hb : b < 64) (hc : c < 64) :
    bits 6 a ++ bits 6 b ++ bits 6 c =
      bits 8 (UInt8.ofNat (a * 4 + b / 16)).toNat ++
        bits 8 (UInt8.ofNat (b % 16 * 16 + c / 4)).toNat ++ bits 2 (c % 4) := by
  have hsecond : bits 8 (UInt8.ofNat (b % 16 * 16 + c / 4)).toNat =
      bits 4 (b % 16) ++ bits 4 (c / 4) :=
    bits_byte (v := 4) (w := 4) rfl (Nat.mod_lt b (by decide)) (Nat.div_lt_of_lt_mul hc)
  have hcut : bits 6 c = bits 4 (c / 4) ++ bits 2 (c % 4) := bits_cut (v := 4) (w := 2) rfl c
  rw [bits_two ha hb, hsecond, hcut]
  simp only [List.append_assoc]

/-- Four digits are three bytes. -/
theorem bits_four (ha : a < 64) (hb : b < 64) (hc : c < 64) (hd : d < 64) :
    bits 6 a ++ bits 6 b ++ bits 6 c ++ bits 6 d =
      bits 8 (UInt8.ofNat (a * 4 + b / 16)).toNat ++
        bits 8 (UInt8.ofNat (b % 16 * 16 + c / 4)).toNat ++
        bits 8 (UInt8.ofNat (c % 4 * 64 + d)).toNat := by
  have hthird : bits 8 (UInt8.ofNat (c % 4 * 64 + d)).toNat = bits 2 (c % 4) ++ bits 6 d :=
    bits_byte (v := 2) (w := 6) rfl (Nat.mod_lt c (by decide)) hd
  rw [bits_three ha hb hc, hthird]
  simp only [List.append_assoc]

/-- Digits give bytes exactly if their last group is complete. -/
theorem isSome_bytes?_iff : (bytes? pads values).isSome ↔ IsPadded values.length pads := by
  unfold IsPadded
  fun_induction bytes? pads values with
  | case1 => simp
  | case2 => simp
  | case3 a b h => simp [h]
  | case4 a b h => simp [h]
  | case5 a b c h => simp [h]
  | case6 a b c h => simp [h]
  | case7 a b c d rest ih =>
      have hlength : (rest.length + 1 + 1 + 1 + 1) % 4 = rest.length % 4 := by omega
      simpa only [Option.isSome_map, List.length_cons, hlength] using ih

/-- The bits of the bytes are those of the digits, as far as they fill whole bytes. -/
theorem bits_of_bytes? (hvalues : ∀ n ∈ values, n < 64) (h : bytes? pads values = some bs) :
    bitsOfBytes bs = (bitsOfDigits values).take (8 * (6 * values.length / 8)) := by
  fun_induction bytes? pads values generalizing bs with
  | case1 => cases h; rfl
  | case2 => cases h
  | case3 a b _ =>
      cases h
      have hbits := bits_two (hvalues a (by simp)) (hvalues b (by simp))
      simp only [bitsOfBytes, bitsOfDigits, List.flatMap_cons, List.flatMap_nil, List.append_nil,
        hbits]
      exact (List.take_left' (by simp [length_bits])).symm
  | case4 => cases h
  | case5 a b c _ =>
      cases h
      have hbits := bits_three (hvalues a (by simp)) (hvalues b (by simp)) (hvalues c (by simp))
      simp only [bitsOfBytes, bitsOfDigits, List.flatMap_cons, List.flatMap_nil, List.append_nil,
        ← List.append_assoc, hbits]
      exact (List.take_left' (by simp [length_bits])).symm
  | case6 => cases h
  | case7 a b c d rest ih =>
      obtain ⟨ds, hrest, rfl⟩ := Option.map_eq_some_iff.mp h
      have hbits := bits_four (hvalues a (by simp)) (hvalues b (by simp)) (hvalues c (by simp))
        (hvalues d (by simp))
      have htail := ih (fun n hn => hvalues n (by simp [hn])) hrest
      have hcount : 8 * (6 * (rest.length + 1 + 1 + 1 + 1) / 8) =
          8 + 8 + 8 + 8 * (6 * rest.length / 8) := by omega
      simp only [bitsOfBytes, bitsOfDigits, List.flatMap_cons, ← List.append_assoc, hbits,
        List.length_cons, hcount] at htail ⊢
      rw [List.take_append, List.take_of_length_le, htail]
      · simp only [List.length_append, length_bits, Nat.add_sub_cancel_left]
      · simp only [List.length_append, length_bits, Nat.le_add_right]

/-- **Bytes of digits.**  Digits give exactly the bytes whose bits are theirs, where their last
group is complete. -/
theorem bytes?_eq_some_iff (hvalues : ∀ n ∈ values, n < 64) :
    bytes? pads values = some bs ↔ IsPadded values.length pads ∧
      bitsOfBytes bs = (bitsOfDigits values).take (8 * (6 * values.length / 8)) := by
  constructor
  · intro h
    exact ⟨isSome_bytes?_iff.mp (h ▸ rfl), bits_of_bytes? hvalues h⟩
  · rintro ⟨hpadded, hbits⟩
    obtain ⟨cs, hcs⟩ := Option.isSome_iff_exists.mp (isSome_bytes?_iff.mpr hpadded)
    have hsame : bs = cs := bitsOfBytes_injective (hbits.trans (bits_of_bytes? hvalues hcs).symm)
    rw [hcs, hsame]

end Groups

/-! ### Digits -/

/-- Among the first 128 characters the digits are those of the alphabet, by their places. -/
theorem digitValue?_of_lt :
    ∀ n < 128, digitValue? (Char.ofNat n) =
      if Char.ofNat n ∈ alphabet then some (alphabet.idxOf (Char.ofNat n)) else none := by
  decide +kernel

/-- The value of a digit is its place in the alphabet; nothing else has a value. -/
theorem digitValue?_eq (c : Char) :
    digitValue? c = if c ∈ alphabet then some (alphabet.idxOf c) else none := by
  by_cases hc : c.toNat < 128
  · simpa only [Char.ofNat_toNat] using digitValue?_of_lt c.toNat hc
  · have hascii : alphabet.all Ascii.isAscii := by decide +kernel
    rw [if_neg fun hmem => hc (of_decide_eq_true (List.all_eq_true.mp hascii c hmem))]
    have hbeyond : ∀ d : Char, d.toNat < 128 → ¬ c ≤ d := fun d hd hle =>
      hc (Nat.lt_of_le_of_lt (Char.le_def.mp hle) hd)
    have hother : ∀ d : Char, d.toNat < 128 → c ≠ d := fun d hd heq => hc (heq ▸ hd)
    simp [digitValue?, hbeyond 'Z' (by decide), hbeyond 'z' (by decide),
      hbeyond '9' (by decide), hother '+' (by decide), hother '/' (by decide)]

/-- The values of the digits in a text, what is no digit dropped. -/
theorem filterMap_digitValue? (body : List Char) :
    body.filterMap digitValue? = (digitsIn body).map alphabet.idxOf := by
  induction body with
  | nil => rfl
  | cons c body ih =>
      rw [List.filterMap_cons, digitValue?_eq, ih]
      by_cases hc : c ∈ alphabet <;> simp [digitsIn, hc]

/-- The alphabet has 64 places. -/
theorem idxOf_lt {c : Char} (hc : c ∈ alphabet) : alphabet.idxOf c < 64 :=
  List.idxOf_lt_length_iff.mpr hc

/-- **Bytes of a text.**  A text with padding after it is read as exactly the bytes that it stands
for. -/
theorem decode?_eq_some_iff {body : List Char} {pads : Nat} {bytes : Bytes} :
    decode? body pads = some bytes ↔ StandsFor body pads bytes := by
  have hvalues : ∀ n ∈ (digitsIn body).map alphabet.idxOf, n < 64 := by
    intro n hn
    obtain ⟨c, hc, rfl⟩ := List.mem_map.mp hn
    exact idxOf_lt (by simpa using (List.mem_filter.mp hc).2)
  rw [decode?, filterMap_digitValue?, bytes?_eq_some_iff hvalues, List.length_map]
  exact ⟨fun h => ⟨h.1, h.2⟩, fun h => ⟨h.padded, h.bits⟩⟩

/-- A digit is of the alphabet. -/
theorem digit_mem {n : Nat} (h : n < 64) : digit n ∈ alphabet := by
  by_contra hmem
  have hvalue := digitValue?_digit h
  rw [digitValue?_eq, if_neg hmem] at hvalue
  cases hvalue

/-- Bytes are written with digits. -/
theorem mem_alphabet_of_mem_digits {bytes : Bytes} : ∀ c ∈ digits bytes, c ∈ alphabet := by
  have hbyte : ∀ x : UInt8, x.toNat < 256 := fun x => x.toNat_lt
  fun_induction digits bytes with
  | case1 => simp
  | case2 x =>
      have hx := hbyte x
      simp only [List.forall_mem_cons, List.not_mem_nil, false_imp_iff, implies_true, and_true]
      exact ⟨digit_mem (by omega), digit_mem (by omega)⟩
  | case3 x y =>
      have hx := hbyte x
      have hy := hbyte y
      simp only [List.forall_mem_cons, List.not_mem_nil, false_imp_iff, implies_true, and_true]
      exact ⟨digit_mem (by omega), digit_mem (by omega), digit_mem (by omega)⟩
  | case4 x y z rest ih =>
      have hx := hbyte x
      have hy := hbyte y
      have hz := hbyte z
      simp only [List.forall_mem_cons]
      exact ⟨digit_mem (by omega), digit_mem (by omega), digit_mem (by omega),
        digit_mem (by omega), ih⟩

/-- Bytes are written with digits if there are any. -/
theorem digits_ne_nil {bytes : Bytes} (h : bytes ≠ []) : digits bytes ≠ [] := by
  fun_cases digits bytes with
  | case1 => exact (h rfl).elim
  | case2 | case3 | case4 => exact List.cons_ne_nil _ _

/-! ### Going through a text -/

/-- Reading digits never complains of a character beyond ASCII. -/
theorem readFrom_ne_notAscii (group : List Nat) (pads : Nat) (text : List Char) :
    readFrom group pads text ≠ .error .notAscii := by
  fun_induction readFrom group pads text with
  | case1 | case2 | case3 | case4 | case6 => intro h; cases h
  | case5 _ _ _ _ _ ih | case7 _ _ _ _ _ ih | case8 _ _ _ _ _ _ ih => exact ih
  | case10 _ _ _ _ _ _ _ _ ih => exact ih
  | case9 pads sign rest _ d _ a b c ih =>
      cases hrest : readFrom [] 0 rest with
      | ok bs => intro h; cases h
      | error f => simpa [Except.map, hrest] using ih

/-- Padding alone completes a group that it is enough for. -/
theorem readFrom_replicate (group : List Nat) (hgroup : group.length ≤ 3) (pads : Nat) :
    (readFrom group 0 (List.replicate pads '=')).toOption = bytes? pads group := by
  rcases group with _ | ⟨a, _ | ⟨b, _ | ⟨c, _ | ⟨d, rest⟩⟩⟩⟩
  · induction pads with
    | zero => rfl
    | succ n ih => exact ih
  · induction pads with
    | zero => rfl
    | succ n ih => exact ih
  · rcases pads with _ | _ | n
    · rfl
    · rfl
    · simp [readFrom, bytes?, List.replicate_succ, Except.toOption]
  · rcases pads with _ | n
    · rfl
    · simp [readFrom, bytes?, List.replicate_succ, Except.toOption]
  · exact absurd hgroup (by simp only [List.length_cons]; omega)

/-- Going through a text with all its padding at the end gives the same as taking its
digits together. -/
theorem readFrom_padded {group : List Nat} (hgroup : group.length ≤ 3) {body : List Char}
    (hbody : '=' ∉ body) (pads : Nat) :
    (readFrom group 0 (body ++ List.replicate pads '=')).toOption =
      bytes? pads (group ++ body.filterMap digitValue?) := by
  induction body generalizing group with
  | nil => simpa using readFrom_replicate group hgroup pads
  | cons c body ih =>
      obtain ⟨hc, hrest⟩ : '=' ≠ c ∧ '=' ∉ body := by simpa using hbody
      rw [List.cons_append, List.filterMap_cons]
      unfold readFrom
      rw [if_neg hc.symm]
      cases hvalue : digitValue? c with
      | none => exact ih hgroup hrest
      | some d =>
          rcases group with _ | ⟨a, _ | ⟨b, _ | ⟨e, _ | ⟨f, rest⟩⟩⟩⟩
          · exact ih (by simp) hrest
          · exact ih (by simp) hrest
          · exact ih (by simp) hrest
          · have htail := @ih [] (by simp) hrest
            simp only [List.cons_append, List.nil_append, bytes?] at htail ⊢
            rw [← htail]
            cases readFrom [] 0 (body ++ List.replicate pads '=') <;> rfl
          · exact absurd hgroup (by simp only [List.length_cons]; omega)

/-- **Reading.**  A text of the first 128 characters with all its padding at the end is read as its
digits are; if it gives no bytes, that is not for its characters. -/
theorem read_padded {body : List Char} (hbody : ∀ c ∈ body, c.toNat < 128 ∧ c ≠ '=') (pads : Nat) :
    (∃ bytes, read (body ++ List.replicate pads '=') = .ok bytes ∧
        decode? body pads = some bytes) ∨
      ∃ flaw, read (body ++ List.replicate pads '=') = .error flaw ∧ flaw ≠ .notAscii ∧
        decode? body pads = none := by
  have hascii : (body ++ List.replicate pads '=').all Ascii.isAscii := by
    rw [List.all_append, Bool.and_eq_true, List.all_eq_true, List.all_eq_true]
    refine ⟨fun c hc => decide_eq_true (hbody c hc).1, fun c hc => ?_⟩
    rw [List.eq_of_mem_replicate hc]
    rfl
  have hread := @readFrom_padded [] (by simp) body (fun h => (hbody '=' h).2 rfl) pads
  rw [List.nil_append] at hread
  unfold read decode?
  rw [if_pos hascii]
  cases hresult : readFrom [] 0 (body ++ List.replicate pads '=') with
  | ok bytes =>
      rw [hresult] at hread
      exact .inl ⟨bytes, rfl, hread.symm⟩
  | error flaw =>
      rw [hresult] at hread
      exact .inr ⟨flaw, rfl, fun h => readFrom_ne_notAscii _ _ _ (h ▸ hresult), hread.symm⟩

end RequestLog.Text.Base64
