import NumaFabric.Text.Utf8

namespace NumaFabric.Text

theorem byteArray_loop_eq (bytes : ByteArray) (i : Nat) (acc : List UInt8) :
    ByteArray.toList.loop bytes i acc = acc.reverse ++ bytes.data.toList.drop i := by
  fun_induction ByteArray.toList.loop bytes i acc with
  | case1 i acc h ih =>
      have hlength : i < bytes.data.toList.length := h
      have hget : bytes.get! i = bytes.data.toList[i] := getElem!_pos bytes.data i h
      rw [ih, List.drop_eq_getElem_cons hlength, hget]
      simp
  | case2 i acc h =>
      have hlength : bytes.data.toList.length ≤ i := Nat.not_lt.mp h
      rw [List.drop_eq_nil_of_le hlength, List.append_nil]

theorem toList_byteArray (bytes : ByteArray) : bytes.toList = bytes.data.toList :=
  byteArray_loop_eq bytes 0 []

theorem utf8Decode?_utf8Encode (s : String) : utf8Decode? (utf8Encode s) = some s := by
  have hbytes : (⟨(utf8Encode s).toArray⟩ : ByteArray) = s.toByteArray := by
    rw [utf8Encode, toList_byteArray]
    rfl
  rw [utf8Decode?, hbytes, String.fromUTF8?, dif_pos s.isValidUTF8]
  rfl

end NumaFabric.Text
