import InventorySearch.FieldId
import InventorySearch.Proofs.Text.Base64.Canonical
import InventorySearch.Proofs.Text.Utf8

/-! Keys and field ids correspond: every key is read back from its field id, and what is read as a key is its field
id, which writes the bytes of the key. So different keys have different field ids, and only the empty text is the
field id of the empty key. -/

namespace InventorySearch.FieldId

theorem encode_utf8 (key : String) :
    Text.Utf8.encode (encode key) = (Text.Base64.encode (Text.Utf8.encode key)).map fun c => UInt8.ofNat c.toNat :=
  Text.Utf8.encode_ofList_of_ascii fun _ hc => Text.Base64.toNat_lt_of_mem_encode hc

/-- A key is read back from its field id. -/
theorem decode_encode (key : String) : decode (encode key) = .ok key := by
  rw [decode, encode_utf8, Text.Base64.decode_encode]
  simp only [Text.Utf8.decode_encode]

/-- What is read as a key is the field id of this key. -/
theorem encode_of_decode {id key : String} (h : decode id = .ok key) : encode key = id := by
  unfold decode at h
  split at h
  · cases h
  next bytes hbytes =>
    split at h <;> cases h
    next hkey =>
      apply Text.Utf8.encode_injective
      rw [encode_utf8, Text.Utf8.encode_of_decode hkey, Text.Base64.map_encode_of_decode hbytes]

theorem encode_empty : encode "" = "" := by
  rw [encode, Text.Utf8.encode_empty]
  rfl

theorem decode_eq_empty {id : String} (h : decode id = .ok "") : id = "" :=
  (encode_of_decode h).symm.trans encode_empty

theorem encode_injective {key other : String} (h : encode key = encode other) : key = other := by
  have hread := decode_encode key
  rw [h, decode_encode] at hread
  exact (Except.ok.inj hread).symm

theorem encode_ne_empty {key : String} (h : key ≠ "") : encode key ≠ "" := by
  intro heq
  exact h (encode_injective (heq.trans encode_empty.symm))

theorem isSymbol_of_mem_encode {key : String} {c : Char} (h : c ∈ (encode key).toList) : Text.Base64.IsSymbol c := by
  rw [encode, String.toList_ofList] at h
  exact Text.Base64.isSymbol_of_mem_encode h

/-- Field ids and keys correspond one to one. A text is read as a key exactly when it is the field id of the key,
and it is exactly when it writes the bytes of the key in base64. -/
theorem field_ids_correspond_to_keys (id key : String) :
    (decode id = .ok key ↔ encode key = id) ∧
      (encode key = id ↔ Text.Base64.Writes id.toList (Text.Utf8.encode key)) ∧
      ∀ other, decode id = .ok key → decode other = .ok key → other = id := by
  refine ⟨⟨encode_of_decode, fun h => h ▸ decode_encode key⟩, ?_, fun other hid hother => ?_⟩
  · rw [Text.Base64.writes_iff, encode, ← String.toList_inj, String.toList_ofList]
  · exact (encode_of_decode hother).symm.trans (encode_of_decode hid)

end InventorySearch.FieldId
