/-!
# The bytes of a text

A text reaches a device as its UTF-8 bytes.  Joined texts have the joined bytes
(`Text.bytes_append`, `Text.bytes_join`).
-/

namespace ExprEmit

namespace Text

/-- The UTF-8 bytes of a text. -/
def bytes (s : String) : List UInt8 := s.toUTF8.toList

/-- Listing the bytes of an array from the `i`-th on, behind those listed before. -/
theorem toList_loop (bs : ByteArray) (i : Nat) (listed : List UInt8) :
    ByteArray.toList.loop bs i listed = listed.reverse ++ bs.data.toList.drop i := by
  induction i, listed using ByteArray.toList.loop.induct bs with
  | case1 i listed h ih =>
    have hi : i < bs.data.toList.length := h
    have hget : bs.get! i = bs.data.toList[i] := getElem!_pos bs.data i h
    rw [ByteArray.toList.loop, if_pos h, ih, List.drop_eq_getElem_cons hi, hget,
      List.reverse_cons, List.append_assoc]
    rfl
  | case2 i listed h =>
    have hi : bs.data.toList.length ≤ i := Nat.le_of_not_lt h
    rw [ByteArray.toList.loop, if_neg h, List.drop_eq_nil_of_le hi, List.append_nil]

theorem bytes_eq (s : String) : bytes s = s.toByteArray.data.toList :=
  toList_loop s.toByteArray 0 []

theorem bytes_empty : bytes "" = [] := bytes_eq ""

theorem bytes_append (s t : String) : bytes (s ++ t) = bytes s ++ bytes t := by
  simp only [bytes_eq, String.toByteArray_append, ByteArray.data_append, Array.toList_append]

theorem bytes_join (ss : List String) : bytes (String.join ss) = ss.flatMap bytes := by
  induction ss with
  | nil => exact bytes_empty
  | cons s ss ih => rw [String.join_cons, bytes_append, ih, List.flatMap_cons]

/-- The bytes of a text are those of its characters. -/
theorem bytes_eq_flatMap (s : String) : bytes s = s.toList.flatMap String.utf8EncodeChar := by
  rw [bytes_eq, ← String.utf8Encode_toList, List.utf8Encode, List.toList_data_toByteArray]

/-- Bytes are read as a text exactly if they are its bytes. -/
theorem fromUTF8?_eq_some_iff {bs : List UInt8} {s : String} :
    String.fromUTF8? (ByteArray.mk bs.toArray) = some s ↔ bs = bytes s := by
  unfold String.fromUTF8?
  constructor
  · intro h
    split at h
    · obtain rfl := Option.some.inj h
      rw [bytes_eq]
      rfl
    · cases h
  · rintro rfl
    have hbytes : ByteArray.mk (bytes s).toArray = s.toByteArray := by
      rw [bytes_eq]
    rw [dif_pos (hbytes ▸ s.isValidUTF8)]
    simp only [hbytes]
    rfl

end Text

end ExprEmit
