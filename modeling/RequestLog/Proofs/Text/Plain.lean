import RequestLog.Text.LetterCase
import RequestLog.Text.Percent

/-!
# Characters that every reading keeps

The first 128 characters are their own bytes, and their lower case is that of their letters
(`lower_of_isAscii`). Letters, digits and the four signs that an address may hold anywhere stand for
themselves in the fields of a query: `decode_of_isUnreserved`.
-/

namespace RequestLog.Text

/-- Letters and digits end at the letter z. -/
theorem lt_of_isAlphanum {c : Char} (h : c.isAlphanum) : c.toNat < 128 := by
  have hkind : (c.isUpper || c.isLower || c.isDigit) = true := h
  have hlast : c.val ≤ 'Z'.val ∨ c.val ≤ 'z'.val ∨ c.val ≤ '9'.val := by
    rcases Bool.or_eq_true_iff.mp hkind with hletter | hdigit
    · rcases Bool.or_eq_true_iff.mp hletter with hupper | hlower
      · exact .inl (of_decide_eq_true hupper).2
      · exact .inr (.inl (of_decide_eq_true (Bool.and_eq_true_iff.mp hlower).2))
    · exact .inr (.inr (of_decide_eq_true (Bool.and_eq_true_iff.mp hdigit).2))
  simp only [UInt32.le_iff_toNat_le] at hlast
  have hZ : 'Z'.val.toNat = 90 := rfl
  have hz : 'z'.val.toNat = 122 := rfl
  have h9 : '9'.val.toNat = 57 := rfl
  have hc : c.toNat = c.val.toNat := rfl
  omega

/-- A letter, a digit, or one of the signs that stand for themselves everywhere in an address. -/
def isUnreserved (c : Char) : Bool :=
  c.isAlphanum || c == '-' || c == '_' || c == '.' || c == '~'

theorem isAscii_of_isUnreserved {c : Char} (h : isUnreserved c) : Ascii.isAscii c := by
  simp only [isUnreserved, Bool.or_eq_true, beq_iff_eq] at h
  rcases h with (((h | rfl) | rfl) | rfl) | rfl
  · exact decide_eq_true (lt_of_isAlphanum h)
  all_goals rfl

/-- None of the signs that mean something in a query stands for itself. -/
theorem ne_of_isUnreserved {c d : Char} (hc : isUnreserved c) (hd : isUnreserved d = false) :
    c ≠ d := by
  rintro rfl
  rw [hc] at hd
  cases hd

/-! ### Letter case -/

theorem lowerAfter_of_isAscii (before : List Char) {cs : List Char}
    (h : ∀ c ∈ cs, Ascii.isAscii c) : lowerAfter before cs = cs.map Char.toLower := by
  induction cs generalizing before with
  | nil => rfl
  | cons c rest ih =>
      have hc : c.toNat < 0x80 := of_decide_eq_true (h c List.mem_cons_self)
      have hsigma : c.toNat ≠ 0x3a3 := by omega
      rw [lowerAfter, if_neg hsigma, lowerChar, if_pos hc,
        ih _ fun d hd => h d (List.mem_cons_of_mem c hd)]
      rfl

/-- **Letter case.**  The lower case of a text of the first 128 characters is that of its
letters. -/
theorem lower_of_isAscii {s : String} (h : ∀ c ∈ s.toList, Ascii.isAscii c) :
    lower s = s.toLower := by
  rw [lower, lowerAfter_of_isAscii [] h, ← String.toList_inj, String.toList_ofList]
  exact String.toList_map.symm

/-! ### Fields of a query -/

theorem ofNat_toNat_of_isAscii {c : Char} (h : Ascii.isAscii c) :
    (UInt8.ofNat c.toNat).toNat = c.toNat := by
  have hc : c.toNat < 0x80 := of_decide_eq_true h
  rw [UInt8.toNat_ofNat']
  omega

/-- Characters that are their own bytes are read off these bytes. -/
theorem Utf8.decodeLossy_of_isAscii {cs : List Char} (h : ∀ c ∈ cs, Ascii.isAscii c) :
    decodeLossy (cs.map fun c => UInt8.ofNat c.toNat) = cs := by
  induction cs with
  | nil => rw [List.map_nil, decodeLossy]
  | cons c rest ih =>
      have hc := ofNat_toNat_of_isAscii (h c List.mem_cons_self)
      have hlt : c.toNat < 0x80 := of_decide_eq_true (h c List.mem_cons_self)
      rw [List.map_cons, decodeLossy, next, hc, if_pos hlt,
        ih fun d hd => h d (List.mem_cons_of_mem c hd)]
      simp

namespace Percent

/-- Characters other than a percent sign spell themselves. -/
theorem spelled_of_ne {cs : List Char} (h : ∀ c ∈ cs, c ≠ '%') :
    spelled cs = cs.map fun c => UInt8.ofNat c.toNat := by
  induction cs with
  | nil => rw [spelled, List.map_nil]
  | cons c rest ih =>
      have hc : c ≠ '%' := h c List.mem_cons_self
      rw [List.map_cons, ← ih fun d hd => h d (List.mem_cons_of_mem c hd)]
      cases rest with
      | nil => simp [spelled]
      | cons d rest => cases rest <;> simp [spelled, hc]

/-- Characters that are their own bytes make up one stretch. -/
theorem decodeRuns_of_isAscii (run : List Char) {cs : List Char}
    (h : ∀ c ∈ cs, Ascii.isAscii c) :
    decodeRuns run cs = Utf8.decodeLossy (spelled (run.reverse ++ cs)) := by
  induction cs generalizing run with
  | nil => rw [decodeRuns, List.append_nil]
  | cons c rest ih =>
      rw [decodeRuns, if_pos (h c List.mem_cons_self),
        ih _ fun d hd => h d (List.mem_cons_of_mem c hd), List.reverse_cons, List.append_assoc,
        List.singleton_append]

/-- **Fields.**  What stands for itself is read as it is. -/
theorem decode_of_isUnreserved {cs : List Char} (h : ∀ c ∈ cs, isUnreserved c) :
    decode cs = String.ofList cs := by
  have hplus : (cs.map fun c => if c = '+' then ' ' else c) = cs := by
    refine (List.map_congr_left fun c hc => ?_).trans (List.map_id cs)
    exact if_neg (ne_of_isUnreserved (h c hc) rfl)
  have hascii : ∀ c ∈ cs, Ascii.isAscii c := fun c hc => isAscii_of_isUnreserved (h c hc)
  rw [decode, hplus, decodeRuns_of_isAscii [] hascii, List.reverse_nil, List.nil_append,
    spelled_of_ne fun c hc => ne_of_isUnreserved (h c hc) rfl, Utf8.decodeLossy_of_isAscii hascii]

end Percent

end RequestLog.Text
