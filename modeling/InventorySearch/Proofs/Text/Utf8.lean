import InventorySearch.Text.Utf8

/-! The bytes of a text are read back as the text, strictly and leniently. The bytes of ASCII characters
are their numbers. -/

namespace InventorySearch.Text.Utf8

/-! ### Bytes as a list -/

theorem toList_loop (bytes : ByteArray) (i : Nat) (read : List UInt8) :
    ByteArray.toList.loop bytes i read = read.reverse ++ bytes.data.toList.drop i := by
  induction hleft : bytes.size - i generalizing i read with
  | zero =>
      have hi : ¬i < bytes.size := by omega
      have hdrop : bytes.data.toList.drop i = [] := List.drop_eq_nil_of_le (by simpa using hi)
      rw [ByteArray.toList.loop, if_neg hi, hdrop, List.append_nil]
  | succ left ih =>
      have hi : i < bytes.size := by omega
      have hlength : i < bytes.data.toList.length := by simpa using hi
      have hget : bytes.get! i = bytes.data.toList.get ⟨i, hlength⟩ := getElem!_pos bytes.data i hi
      rw [ByteArray.toList.loop, if_pos hi, ih (i + 1) _ (by omega), List.reverse_cons, List.append_assoc,
        hget, List.singleton_append, List.get_eq_getElem, List.getElem_cons_drop]

theorem toList_eq (bytes : ByteArray) : bytes.toList = bytes.data.toList := by
  rw [ByteArray.toList, toList_loop, List.reverse_nil, List.nil_append, List.drop_zero]

theorem toByteArray_toList (bytes : ByteArray) : bytes.toList.toByteArray = bytes := by
  rw [toList_eq]
  ext1
  simp

theorem toList_toByteArray (bytes : List UInt8) : bytes.toByteArray.toList = bytes := by
  rw [toList_eq]
  simp

/-! ### Texts and their bytes -/

theorem encode_empty : encode "" = [] :=
  ByteArray.toList_empty

theorem fromUTF8?_encode (s : String) : String.fromUTF8? (encode s).toByteArray = some s := by
  rw [encode, toByteArray_toList, String.fromUTF8?, dif_pos s.isValidUTF8]
  rfl

/-- The bytes of a text are read back as the text. -/
theorem decode_encode (s : String) : decode (encode s) = .ok s := by
  rw [decode, fromUTF8?_encode]

theorem decodeLossy_encode (s : String) : decodeLossy (encode s) = s := by
  rw [decodeLossy, fromUTF8?_encode]

theorem encode_injective {s t : String} (h : encode s = encode t) : s = t := by
  have hread := fromUTF8?_encode s
  rw [h, fromUTF8?_encode] at hread
  exact (Option.some.inj hread).symm

/-- What bytes are read as has these bytes. -/
theorem encode_of_decode {bytes : List UInt8} {s : String} (h : decode bytes = .ok s) : encode s = bytes := by
  rw [decode, String.fromUTF8?] at h
  split at h
  next t hread =>
    split at hread
    next hvalid =>
      cases hread
      cases h
      exact toList_toByteArray bytes
    · cases hread
  · cases h

theorem utf8EncodeChar_of_ascii {c : Char} (h : c.toNat < 128) :
    String.utf8EncodeChar c = [UInt8.ofNat c.toNat] := by
  have hle : c.val.toNat ≤ 0x7f := Nat.le_of_lt_succ h
  rw [String.utf8EncodeChar]
  exact if_pos hle

/-- The bytes of ASCII characters are their numbers. -/
theorem encode_ofList_of_ascii {cs : List Char} (h : ∀ c ∈ cs, c.toNat < 128) :
    encode (String.ofList cs) = cs.map fun c => UInt8.ofNat c.toNat := by
  rw [encode, String.toByteArray_ofList, List.utf8Encode, toList_toByteArray, List.flatMap_def,
    List.map_congr_left fun c hc => utf8EncodeChar_of_ascii (h c hc), ← List.flatMap_def, ← List.map_eq_flatMap]

end InventorySearch.Text.Utf8
