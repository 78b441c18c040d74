import PreAggregation.Text.Utf8

/-!
# Text and its bytes

Reading the bytes of a text gives the text back, and bytes that can be read are those of
what is read.
-/

namespace PreAggregation
namespace Text
namespace Utf8

theorem toList_loop
    (bytes : ByteArray)
    (index : Nat)
    (taken : List UInt8) :
    ByteArray.toList.loop bytes index taken = taken.reverse ++ bytes.data.toList.drop index := by
  by_cases inside : index < bytes.size
  · have next : bytes.data.toList.drop index =
        bytes.get! index :: bytes.data.toList.drop (index + 1) := by
      have bound : index < bytes.data.toList.length := inside
      rw [List.drop_eq_getElem_cons bound]
      congr 1
      exact (getElem!_pos bytes.data index inside).symm
    rw [ByteArray.toList.loop, if_pos inside, toList_loop bytes (index + 1), next,
      List.reverse_cons, List.append_assoc]
    rfl
  · have past : bytes.data.toList.length ≤ index := Nat.le_of_not_lt inside
    rw [ByteArray.toList.loop, if_neg inside, List.drop_eq_nil_of_le past, List.append_nil]
termination_by bytes.size - index

theorem toList_eq (bytes : ByteArray) : bytes.toList = bytes.data.toList :=
  toList_loop bytes 0 []

@[simp] theorem decode?_encode (text : String) : decode? (encode text) = some text := by
  have restored : (⟨(encode text).toArray⟩ : ByteArray) = text.toUTF8 := by
    rw [encode, toList_eq]
  rw [decode?, restored, String.fromUTF8?]
  exact dif_pos text.isValidUTF8

theorem encode_of_decode?
    {bytes : List UInt8}
    {text : String}
    (decoded : decode? bytes = some text) :
    encode text = bytes := by
  unfold decode? String.fromUTF8? at decoded
  split at decoded
  · rw [Option.some.injEq] at decoded
    rw [encode, toList_eq, ← decoded]
    rfl
  · exact absurd decoded (by simp)

theorem encode_append (before after : String) :
    encode (before ++ after) = encode before ++ encode after := by
  simp only [encode, toList_eq, String.toUTF8]
  rw [String.toByteArray_append, ByteArray.data_append, Array.toList_append]

end Utf8
end Text
end PreAggregation
