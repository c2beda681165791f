import RequestLog.Text.Utf8

/-!
# Well-formed bytes

Bytes are well formed exactly if they are the bytes of a text, and it is that text that they are
read as: `decode?_eq_some_iff`.
-/

namespace RequestLog.Text.Utf8

theorem toList_loop (bytes : ByteArray) (i : Nat) (front : Bytes) :
    ByteArray.toList.loop bytes i front = front.reverse ++ bytes.data.toList.drop i := by
  fun_induction ByteArray.toList.loop bytes i front with
  | case1 i front hi ih =>
      have hlength : i < bytes.data.toList.length := by simpa using hi
      have hget : bytes.get! i = bytes.data.toList[i] := by
        show bytes.data[i]! = _
        rw [getElem!_pos bytes.data i hi, Array.getElem_toList]
      rw [ih, List.drop_eq_getElem_cons hlength, hget, List.reverse_cons, List.append_assoc]
      rfl
  | case2 i front hi =>
      have hlength : bytes.data.toList.length ≤ i := by simpa using hi
      rw [List.drop_eq_nil_of_le hlength, List.append_nil]

/-- The bytes of an array are its elements. -/
theorem toList_eq (bytes : ByteArray) : bytes.toList = bytes.data.toList := by
  rw [ByteArray.toList, toList_loop, List.reverse_nil, List.nil_append, List.drop_zero]

/-- The bytes of a text, put together again, are its bytes. -/
theorem toByteArray_encode (t : String) : (encode t).toByteArray = t.toUTF8 := by
  apply ByteArray.ext
  apply Array.ext'
  rw [List.toList_data_toByteArray, encode, toList_eq]

/-- **Well-formed bytes.**  Bytes are read as a text exactly if they are the bytes of that text. -/
theorem decode?_eq_some_iff {bytes : Bytes} {t : String} :
    decode? bytes = some t ↔ encode t = bytes := by
  constructor
  · intro h
    unfold decode? String.fromUTF8? at h
    split at h
    · cases h
      rw [encode, toList_eq]
      exact List.toList_data_toByteArray
    · cases h
  · rintro rfl
    unfold decode?
    rw [toByteArray_encode]
    exact dif_pos t.isValidUTF8

/-- Texts with the same bytes are the same. -/
theorem encode_injective {t u : String} (h : encode t = encode u) : t = u := by
  have ht : decode? (encode u) = some t := decode?_eq_some_iff.mpr h
  rw [decode?_eq_some_iff.mpr rfl] at ht
  exact (Option.some.inj ht).symm

theorem encode_empty : encode "" = [] := ByteArray.toList_empty

end RequestLog.Text.Utf8
