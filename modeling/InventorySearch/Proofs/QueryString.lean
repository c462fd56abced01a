import InventorySearch.Proofs.Text.Pieces
import InventorySearch.Proofs.Text.Utf8
import InventorySearch.QueryString
import Mathlib.Tactic.SplitIfs

/-! Every list of pairs is read back from its query string. A written part holds no separator and no plus
sign, so cutting finds the parts again, and of a part the percent signs and then the UTF-8 are undone. -/

namespace InventorySearch.QueryString

/-! ### What a part is written with -/

/-- An ASCII character that means nothing to the reader of a query string but itself. -/
def IsSafe (c : Char) : Prop := c.toNat < 128 ∧ c ≠ '&' ∧ c ≠ '=' ∧ c ≠ '+'

instance (c : Char) : Decidable (IsSafe c) := inferInstanceAs (Decidable (_ ∧ _))

/-- The byte of an ASCII character. -/
def byteOf (c : Char) : UInt8 := UInt8.ofNat c.toNat

theorem isSafe_hexDigit : ∀ n < 16, IsSafe (hexDigit n) := by decide

theorem hexValue?_hexDigit : ∀ n < 16, hexValue? (byteOf (hexDigit n)) = some n := by decide

theorem isSafe_of_isPlain : ∀ n < 256, isPlain (UInt8.ofNat n) = true →
    IsSafe (Char.ofNat n) ∧ byteOf (Char.ofNat n) = UInt8.ofNat n ∧ UInt8.ofNat n ≠ 0x25 := by
  decide +kernel

/-- What holds of the characters that stand for themselves, of the percent sign and of the digits holds of every
character of a written part. -/
theorem forall_mem_encodePart {P : Char → Prop}
    (hplain : ∀ n < 256, isPlain (UInt8.ofNat n) = true → P (Char.ofNat n)) (hpercent : P '%')
    (hdigit : ∀ n < 16, P (hexDigit n)) (s : String) : ∀ c ∈ encodePart s, P c := by
  intro c hc
  obtain ⟨b, _, hb⟩ := List.mem_flatMap.mp hc
  have hlt : b.toNat < 256 := b.toNat_lt
  rw [encodeByte] at hb
  split_ifs at hb with hself
  · cases List.mem_singleton.mp hb
    exact hplain b.toNat hlt (by rwa [UInt8.ofNat_toNat])
  · simp only [List.mem_cons, List.not_mem_nil, or_false] at hb
    rcases hb with rfl | rfl | rfl
    · exact hpercent
    · exact hdigit _ (by omega)
    · exact hdigit _ (by omega)

theorem isSafe_of_mem_encodePart {s : String} {c : Char} (hc : c ∈ encodePart s) : IsSafe c :=
  forall_mem_encodePart (fun n hn hplain => (isSafe_of_isPlain n hn hplain).1) (by decide) isSafe_hexDigit s c hc

/-! ### One part -/

theorem percentDecode_cons {b : UInt8} (h : b ≠ 0x25) (rest : List UInt8) :
    percentDecode (b :: rest) = b :: percentDecode rest := by
  match rest with
  | [] => rfl
  | [_] => rfl
  | _ :: _ :: _ => rw [percentDecode, if_neg h]

/-- A written byte is read back, whatever follows it. -/
theorem percentDecode_encodeByte (b : UInt8) (rest : List UInt8) :
    percentDecode ((encodeByte b).map byteOf ++ rest) = b :: percentDecode rest := by
  have hb : b.toNat < 256 := b.toNat_lt
  rw [encodeByte]
  split_ifs with hplain
  · obtain ⟨_, hbyte, hne⟩ := isSafe_of_isPlain b.toNat hb (by rwa [UInt8.ofNat_toNat])
    rw [UInt8.ofNat_toNat] at hbyte hne
    rw [List.map_singleton, hbyte, List.singleton_append, percentDecode_cons hne]
  · have hhigh := hexValue?_hexDigit (b.toNat / 16) (by omega)
    have hlow := hexValue?_hexDigit (b.toNat % 16) (by omega)
    have hbyte : hexByte? (byteOf (hexDigit (b.toNat / 16))) (byteOf (hexDigit (b.toNat % 16))) = some b := by
      rw [hexByte?, hhigh, hlow]
      show some (UInt8.ofNat (16 * (b.toNat / 16) + b.toNat % 16)) = some b
      rw [Nat.div_add_mod, UInt8.ofNat_toNat]
    have hpercent : byteOf '%' = 0x25 := by decide
    rw [List.map_cons, List.map_cons, List.map_singleton, List.cons_append, List.cons_append,
      List.singleton_append, percentDecode, if_pos hpercent, hbyte]

theorem percentDecode_encode (bytes : List UInt8) :
    percentDecode ((bytes.flatMap encodeByte).map byteOf) = bytes := by
  induction bytes with
  | nil => rfl
  | cons b bytes ih => rw [List.flatMap_cons, List.map_append, percentDecode_encodeByte, ih]

theorem decodePart_encodePart (s : String) : decodePart (encodePart s) = s := by
  have hspaces : (encodePart s).map (fun c => if c = '+' then ' ' else c) = encodePart s := by
    calc (encodePart s).map (fun c => if c = '+' then ' ' else c)
      _ = (encodePart s).map id :=
          List.map_congr_left fun c hc => if_neg (isSafe_of_mem_encodePart hc).2.2.2
      _ = encodePart s := List.map_id _
  have hbytes : Text.Utf8.encode (String.ofList (encodePart s)) = (encodePart s).map byteOf :=
    Text.Utf8.encode_ofList_of_ascii fun c hc => (isSafe_of_mem_encodePart hc).1
  rw [decodePart]
  simp only [hspaces, hbytes]
  rw [encodePart, percentDecode_encode, Text.Utf8.decodeLossy_encode]

/-! ### Pairs -/

theorem decodePair_encodePair (pair : String × String) : decodePair (encodePair pair) = pair := by
  have hname : '=' ∉ encodePart pair.1 := fun h => (isSafe_of_mem_encodePart h).2.2.1 rfl
  rw [decodePair, encodePair, Text.cutFirst_append hname]
  simp only [decodePart_encodePart]

theorem ampersand_not_mem_encodePair (pair : String × String) : '&' ∉ encodePair pair := by
  intro h
  rcases List.mem_append.mp h with hname | hvalue
  · exact (isSafe_of_mem_encodePart hname).2.1 rfl
  · rcases List.mem_cons.mp hvalue with heq | hvalue
    · exact absurd heq (by decide)
    · exact (isSafe_of_mem_encodePart hvalue).2.1 rfl

theorem joinPairs_eq_intercalate (pairs : List (List Char)) : joinPairs pairs = ['&'].intercalate pairs := by
  induction pairs with
  | nil => rfl
  | cons pair pairs ih =>
      cases pairs with
      | nil => simp [joinPairs]
      | cons next pairs => simp [joinPairs, ih]

/-- Every list of pairs is read back from its query string. -/
theorem decode_encode (pairs : List (String × String)) : decode (encode pairs) = ⟨pairs⟩ := by
  by_cases hne : pairs = []
  · subst hne
    rfl
  have hcut : Text.cutAt '&' (joinPairs (pairs.map encodePair)) = pairs.map encodePair := by
    rw [joinPairs_eq_intercalate]
    apply Text.cutAt_intercalate
    · simpa using hne
    · rintro _ hmem
      obtain ⟨pair, _, rfl⟩ := List.mem_map.mp hmem
      exact ampersand_not_mem_encodePair pair
  have hkeep : (pairs.map encodePair).filter (fun pair => !pair.isEmpty) = pairs.map encodePair := by
    rw [List.filter_eq_self]
    rintro _ hmem
    obtain ⟨pair, _, rfl⟩ := List.mem_map.mp hmem
    simp [encodePair]
  have hread : (pairs.map encodePair).map decodePair = pairs := by
    rw [List.map_map]
    exact List.map_id'' decodePair_encodePair pairs
  rw [decode, encode, String.toList_ofList, hcut, hkeep, hread]

/-- Any pairs at all are read back from the query string that they are written as, in their order, and what is read
from any text is read again from the query string written for it. Of all the texts that are read alike there is
therefore just one that is written. -/
theorem written_pairs_read_back :
    (∀ pairs : List (String × String), decode (encode pairs) = ⟨pairs⟩) ∧
      (∀ s : String, decode (encode (decode s).pairs) = decode s) ∧
      ∀ s : String, ∃! written, (∃ pairs, written = encode pairs) ∧ decode written = decode s := by
  refine ⟨decode_encode, fun s => decode_encode _, fun s => ?_⟩
  refine ⟨encode (decode s).pairs, ⟨⟨_, rfl⟩, decode_encode _⟩, ?_⟩
  rintro written ⟨⟨pairs, rfl⟩, hread⟩
  have hpairs : pairs = (decode s).pairs := congrArg Params.pairs ((decode_encode pairs).symm.trans hread)
  rw [hpairs]

/-- An empty name, separators within a part, and what a reader takes for a space or a percent sign. -/
example : encode [("", ""), ("a=&", "é +%")] = "=&a%3D%26=%C3%A9%20%2B%25" := by decide +kernel

end InventorySearch.QueryString
