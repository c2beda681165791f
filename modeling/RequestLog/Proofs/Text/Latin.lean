import Mathlib.Data.List.TakeWhile
import RequestLog.Text.Latin

/-!
# Bytes and the characters that they number

Every byte numbers a character of its own, so that bytes are got back from the text that they are
read as. The main statement is `encode_eq_ok_iff`; a text that no bytes are read as has a character
beyond the first 256 (`encode_eq_error_iff`).
-/

namespace RequestLog.Text.Latin

/-- A text of the first 256 characters. -/
def IsLatin (s : String) : Prop := ∀ c ∈ s.toList, c.toNat < 256

instance (s : String) : Decidable (IsLatin s) :=
  decidable_of_iff (s.toList.all fun c => decide (c.toNat < 256)) (by simp [IsLatin])

variable {s : String} {bytes bytes' : Bytes}

/-- A byte is the number of its character. -/
theorem toNat_ofNat_toNat (b : UInt8) : (Char.ofNat b.toNat).toNat = b.toNat := by
  have hlt : b.toNat < 256 := b.toNat_lt
  have hvalid : b.toNat.isValidChar := .inl (by omega)
  rw [Char.ofNat, dif_pos hvalid]
  rfl

/-- The character of a byte has this byte. -/
theorem ofNat_toNat_ofNat (b : UInt8) : UInt8.ofNat (Char.ofNat b.toNat).toNat = b := by
  rw [toNat_ofNat_toNat, UInt8.ofNat_toNat]

/-- Each of the first 256 characters is that of its byte. -/
theorem ofNat_toNat_of_lt {c : Char} (h : c.toNat < 256) :
    Char.ofNat (UInt8.ofNat c.toNat).toNat = c := by
  rw [UInt8.toNat_ofNat', Nat.mod_eq_of_lt h, Char.ofNat_toNat]

/-- Bytes are read one by one. -/
theorem toList_decode (bytes : Bytes) :
    (decode bytes).toList = bytes.map fun b => Char.ofNat b.toNat := String.toList_ofList

/-- Bytes are read one after the other. -/
theorem decode_append (bytes bytes' : Bytes) :
    decode (bytes ++ bytes') = decode bytes ++ decode bytes' := by
  rw [decode, List.map_append, String.ofList_append]
  rfl

/-- What bytes are read as has no other characters. -/
theorem isLatin_decode (bytes : Bytes) : IsLatin (decode bytes) := by
  intro c hc
  rw [toList_decode] at hc
  obtain ⟨b, -, rfl⟩ := List.mem_map.mp hc
  rw [toNat_ofNat_toNat]
  exact b.toNat_lt

/-- The numbers of the characters are the bytes that they were read from. -/
theorem map_toList_decode (bytes : Bytes) :
    ((decode bytes).toList.map fun c => UInt8.ofNat c.toNat) = bytes := by
  rw [toList_decode, List.map_map]
  calc bytes.map ((fun c => UInt8.ofNat c.toNat) ∘ fun b => Char.ofNat b.toNat)
      = bytes.map id := List.map_congr_left fun b _ => ofNat_toNat_ofNat b
    _ = bytes := List.map_id bytes

/-- Different bytes are read as different texts. -/
theorem decode_inj : decode bytes = decode bytes' ↔ bytes = bytes' := by
  refine ⟨fun h => ?_, congrArg decode⟩
  rw [← map_toList_decode bytes, h, map_toList_decode]

/-- Nothing is found that does not fit if everything does. -/
theorem firstUnencodable?_eq_none_iff {fits : Char → Bool} {cs : List Char} :
    firstUnencodable? fits cs = none ↔ ∀ c ∈ cs, fits c := by
  rw [← List.dropWhile_eq_nil_iff, firstUnencodable?]
  cases cs.dropWhile fits <;> simp

/-- A text of the first 256 characters is encoded character by character. -/
theorem encode_of_isLatin (h : IsLatin s) :
    encode s = .ok (s.toList.map fun c => UInt8.ofNat c.toNat) := by
  have hnone : firstUnencodable? isEncodable s.toList = none :=
    firstUnencodable?_eq_none_iff.mpr fun c hc => decide_eq_true (h c hc)
  rw [encode, hnone]

/-- **Bytes.**  The bytes of a text are those that are read as that text. -/
theorem encode_eq_ok_iff : encode s = .ok bytes ↔ decode bytes = s := by
  constructor
  · intro h
    have hlatin : IsLatin s := by
      intro c hc
      cases hfirst : firstUnencodable? isEncodable s.toList with
      | none => exact of_decide_eq_true (firstUnencodable?_eq_none_iff.mp hfirst c hc)
      | some u =>
          rw [encode, hfirst] at h
          cases h
    rw [encode_of_isLatin hlatin] at h
    cases h
    rw [← String.toList_inj, toList_decode, List.map_map]
    calc s.toList.map ((fun b => Char.ofNat b.toNat) ∘ fun c => UInt8.ofNat c.toNat)
        = s.toList.map id := List.map_congr_left fun c hc => ofNat_toNat_of_lt (hlatin c hc)
      _ = s.toList := List.map_id _
  · rintro rfl
    rw [encode_of_isLatin (isLatin_decode bytes), map_toList_decode]

/-- A text has no bytes exactly if it has other characters. -/
theorem encode_eq_error_iff : (∃ u, encode s = .error u) ↔ ¬IsLatin s := by
  constructor
  · rintro ⟨u, hu⟩ hlatin
    rw [encode_of_isLatin hlatin] at hu
    cases hu
  · intro h
    cases hs : encode s with
    | error u => exact ⟨u, rfl⟩
    | ok bytes => exact absurd (encode_eq_ok_iff.mp hs ▸ isLatin_decode bytes) h

end RequestLog.Text.Latin
