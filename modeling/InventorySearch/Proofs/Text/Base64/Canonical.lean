import InventorySearch.Proofs.Text.Base64
import Mathlib.Data.List.Forall2
import Mathlib.Tactic.SplitIfs

/-! Base64 has one written form for each text of bytes. What can be read is the written form of the bytes that it
is read as: the symbols of an alphabet, whose bits are those of the bytes and then zeros, fewer than one symbol
holds. -/

namespace InventorySearch.Text.Base64

/-! ### What can be read -/

theorem value?_eq_some {b : UInt8} {n : Nat} (h : value? b = some n) : n < 64 ∧ symbolByte n = b := by
  have hall : ∀ k < 256, ∀ n ∈ value? (UInt8.ofNat k), n < 64 ∧ symbolByte n = UInt8.ofNat k := by
    decide +kernel
  simpa using hall b.toNat b.toNat_lt n (by simpa using h)

theorem symbolAt_eq_ok {offset n : Nat} {b : UInt8} (h : symbolAt offset b = .ok n) : n < 64 ∧ symbolByte n = b := by
  unfold symbolAt at h
  split at h <;> cases h
  exact value?_eq_some ‹_›

section Sextets

variable {a b c d : Nat}

theorem toNat_firstByte (ha : a < 64) (hb : b < 64) : (UInt8.ofNat (a * 4 + b / 16)).toNat = a * 4 + b / 16 :=
  UInt8.toNat_ofNat_of_lt' (show _ < 256 by omega)

theorem toNat_secondByte (hc : c < 64) : (UInt8.ofNat (b % 16 * 16 + c / 4)).toNat = b % 16 * 16 + c / 4 :=
  UInt8.toNat_ofNat_of_lt' (show _ < 256 by omega)

theorem toNat_thirdByte (hd : d < 64) : (UInt8.ofNat (c % 4 * 64 + d)).toNat = c % 4 * 64 + d :=
  UInt8.toNat_ofNat_of_lt' (show _ < 256 by omega)

variable (ha : a < 64) (hb : b < 64)
include ha hb

theorem sextets_of_two (hunused : b % 16 = 0) : sextets [UInt8.ofNat (a * 4 + b / 16)] = [a, b] := by
  have h₁ : (a * 4 + b / 16) / 4 = a := by omega
  have h₂ : (a * 4 + b / 16) % 4 * 16 = b := by omega
  rw [sextets, toNat_firstByte ha hb, h₁, h₂]

variable (hc : c < 64)
include hc

theorem sextets_of_three (hunused : c % 4 = 0) :
    sextets [UInt8.ofNat (a * 4 + b / 16), UInt8.ofNat (b % 16 * 16 + c / 4)] = [a, b, c] := by
  have h₁ : (a * 4 + b / 16) / 4 = a := by omega
  have h₂ : (a * 4 + b / 16) % 4 * 16 + (b % 16 * 16 + c / 4) / 16 = b := by omega
  have h₃ : (b % 16 * 16 + c / 4) % 16 * 4 = c := by omega
  rw [sextets, toNat_firstByte ha hb, toNat_secondByte hc, h₁, h₂, h₃]

theorem sextets_of_four (hd : d < 64) (rest : List UInt8) :
    sextets (UInt8.ofNat (a * 4 + b / 16) :: UInt8.ofNat (b % 16 * 16 + c / 4) :: UInt8.ofNat (c % 4 * 64 + d) ::
      rest) = a :: b :: c :: d :: sextets rest := by
  have h₁ : (a * 4 + b / 16) / 4 = a := by omega
  have h₂ : (a * 4 + b / 16) % 4 * 16 + (b % 16 * 16 + c / 4) / 16 = b := by omega
  have h₃ : (b % 16 * 16 + c / 4) % 16 * 4 + (c % 4 * 64 + d) / 64 = c := by omega
  have h₄ : (c % 4 * 64 + d) % 64 = d := by omega
  rw [sextets, toNat_firstByte ha hb, toNat_secondByte hc, toNat_thirdByte hd, h₁, h₂, h₃, h₄]

end Sextets

theorem padded_of_lastGroup {offset position p : Nat} {group : List UInt8} {numbers : List Nat} {padded : Bool}
    (h : lastGroup offset position (some p) group = .ok (numbers, padded)) : padded = true := by
  induction group generalizing position p with
  | nil =>
      cases h
      rfl
  | cons b rest ih =>
      rw [lastGroup] at h
      split_ifs at h
      exact ih h

/-- Without padding the last group is read as the numbers of its symbols. -/
theorem lastGroup_eq_ok {offset position : Nat} {group : List UInt8} {numbers : List Nat}
    (h : lastGroup offset position none group = .ok (numbers, false)) :
    (∀ n ∈ numbers, n < 64) ∧ group = numbers.map symbolByte := by
  induction group generalizing position numbers with
  | nil =>
      cases h
      exact ⟨List.forall_mem_nil _, rfl⟩
  | cons b rest ih =>
      rw [lastGroup] at h
      split_ifs at h
      · cases padded_of_lastGroup h
      · split at h <;> cases h
        next n numbers hn hrest =>
          obtain ⟨hlt, rfl⟩ := symbolAt_eq_ok hn
          obtain ⟨hmore, rfl⟩ := ih hrest
          exact ⟨List.forall_mem_cons.mpr ⟨hlt, hmore⟩, rfl⟩

theorem lastGroup_eq_nil {offset : Nat} {group : List UInt8} {padded : Bool}
    (h : lastGroup offset 0 none group = .ok ([], padded)) : group = [] := by
  cases group with
  | nil => rfl
  | cons b rest =>
      rw [lastGroup] at h
      split at h
      · cases h
      · split at h <;> cases h

/-- The last group is what its bytes are written with. -/
theorem lastBytes_eq_ok {offset : Nat} {group bytes : List UInt8} (hlength : group.length ≤ 4)
    (h : lastBytes offset group = .ok bytes) : group = (sextets bytes).map symbolByte := by
  unfold lastBytes at h
  split at h
  · cases h
  next hgroup =>
    cases h
    exact lastGroup_eq_nil hgroup
  · cases h
  · cases h
  next a b hgroup =>
    split at h <;> cases h
    next hunused =>
      obtain ⟨hlt, rfl⟩ := lastGroup_eq_ok hgroup
      rw [sextets_of_two (hlt a (by simp)) (hlt b (by simp)) hunused]
  next a b c hgroup =>
    split at h <;> cases h
    next hunused =>
      obtain ⟨hlt, rfl⟩ := lastGroup_eq_ok hgroup
      rw [sextets_of_three (hlt a (by simp)) (hlt b (by simp)) (hlt c (by simp)) hunused]
  next a b c d more hgroup =>
    cases h
    obtain ⟨hlt, rfl⟩ := lastGroup_eq_ok hgroup
    obtain rfl : more = [] := by
      simp only [List.length_map, List.length_cons] at hlength
      exact List.eq_nil_of_length_eq_zero (by omega)
    rw [sextets_of_four (hlt a (by simp)) (hlt b (by simp)) (hlt c (by simp)) (hlt d (by simp))]
    rfl

theorem decodeFrom_eq_ok {offset : Nat} {symbols bytes : List UInt8} (h : decodeFrom offset symbols = .ok bytes) :
    symbols = (sextets bytes).map symbolByte := by
  fun_induction decodeFrom offset symbols generalizing bytes with
  | case1 offset a b c d rest hempty =>
      obtain rfl : rest = [] := List.isEmpty_iff.mp hempty
      exact lastBytes_eq_ok (Nat.le_refl 4) h
  | case2 offset a b c d rest _ ih =>
      obtain ⟨na, hna, h⟩ := bind_eq_ok_iff.mp h
      obtain ⟨nb, hnb, h⟩ := bind_eq_ok_iff.mp h
      obtain ⟨nc, hnc, h⟩ := bind_eq_ok_iff.mp h
      obtain ⟨nd, hnd, h⟩ := bind_eq_ok_iff.mp h
      obtain ⟨more, hmore, h⟩ := bind_eq_ok_iff.mp h
      cases h
      obtain ⟨ha, rfl⟩ := symbolAt_eq_ok hna
      obtain ⟨hb, rfl⟩ := symbolAt_eq_ok hnb
      obtain ⟨hc, rfl⟩ := symbolAt_eq_ok hnc
      obtain ⟨hd, rfl⟩ := symbolAt_eq_ok hnd
      rw [sextets_of_four ha hb hc hd, ih hmore]
      rfl
  | case3 offset group hshort =>
      refine lastBytes_eq_ok ?_ h
      match group, hshort with
      | [], _ | [_], _ | [_, _], _ | [_, _, _], _ => simp
      | a :: b :: c :: d :: rest, hshort => exact absurd rfl (hshort a b c d rest)

/-- What can be read is the written form of the bytes that it is read as. -/
theorem map_encode_of_decode {symbols bytes : List UInt8} (h : decode symbols = .ok bytes) :
    ((encode bytes).map fun c => UInt8.ofNat c.toNat) = symbols := by
  unfold decode at h
  split at h
  · cases h
  · rw [map_encode]
    exact (decodeFrom_eq_ok h).symm

/-! ### Bits -/

/-- The lowest bits of a number, as many as asked for and the highest first. -/
def bits : Nat → Nat → List Bool
  | 0, _ => []
  | width + 1, n => bits width (n / 2) ++ [decide (n % 2 = 1)]

theorem length_bits (width n : Nat) : (bits width n).length = width := by
  induction width generalizing n with
  | zero => rfl
  | succ width ih => rw [bits, List.length_append, ih, List.length_singleton]

theorem bits_mod (width n : Nat) : bits width (n % Nat.pow 2 width) = bits width n := by
  induction width generalizing n with
  | zero => rfl
  | succ width ih =>
      have hpow : Nat.pow 2 (width + 1) = 2 * Nat.pow 2 width := Nat.mul_comm _ 2
      rw [bits, bits, hpow, Nat.mod_mul_right_div_self, ih, Nat.mod_mul_right_mod]

/-- The bits of a number are the higher ones and then the lower ones. -/
theorem bits_mul_add (high low n : Nat) {m : Nat} (hm : m < Nat.pow 2 low) :
    bits (high + low) (n * Nat.pow 2 low + m) = bits high n ++ bits low m := by
  induction low generalizing m with
  | zero =>
      obtain rfl : m = 0 := Nat.lt_one_iff.mp hm
      exact (congrArg (bits high) (Nat.mul_one n)).trans (List.append_nil _).symm
  | succ low ih =>
      have hpow : Nat.pow 2 (low + 1) = Nat.pow 2 low * 2 := rfl
      rw [hpow] at hm ⊢
      rw [← Nat.mul_assoc]
      have hhalf : (n * Nat.pow 2 low * 2 + m) / 2 = n * Nat.pow 2 low + m / 2 := by omega
      have hlast : (n * Nat.pow 2 low * 2 + m) % 2 = m % 2 := by omega
      rw [← Nat.add_assoc, bits, hhalf, hlast, ih (by omega), bits, List.append_assoc]

theorem bits_add (high low n : Nat) : bits (high + low) n = bits high (n / Nat.pow 2 low) ++ bits low n := by
  have hlow : n % Nat.pow 2 low < Nat.pow 2 low := Nat.mod_lt n (Nat.pow_pos (by decide))
  calc bits (high + low) n
    _ = bits (high + low) (n / Nat.pow 2 low * Nat.pow 2 low + n % Nat.pow 2 low) := by rw [Nat.div_add_mod']
    _ = bits high (n / Nat.pow 2 low) ++ bits low n := by rw [bits_mul_add high low _ hlow, bits_mod]

theorem bits_inj {width a b : Nat} (ha : a < Nat.pow 2 width) (hb : b < Nat.pow 2 width)
    (h : bits width a = bits width b) : a = b := by
  induction width generalizing a b with
  | zero => exact (Nat.lt_one_iff.mp ha).trans (Nat.lt_one_iff.mp hb).symm
  | succ width ih =>
      have hpow : Nat.pow 2 (width + 1) = Nat.pow 2 width * 2 := rfl
      rw [hpow] at ha hb
      obtain ⟨hhigh, hlast⟩ := List.append_inj' h rfl
      have hhalf := ih (by omega) (by omega) hhigh
      simp only [List.cons.injEq, decide_eq_decide, and_true] at hlast
      omega

def byteBits (bytes : List UInt8) : List Bool := bytes.flatMap fun b => bits 8 b.toNat

/-- The bits of bytes are those of their numbers of six bits, the last of which is filled up with zeros. -/
theorem exists_flatMap_bits_sextets (bytes : List UInt8) :
    ∃ unused < 6, (sextets bytes).flatMap (bits 6) = byteBits bytes ++ List.replicate unused false := by
  -- The first byte of three ends within the second number, and the second within the third.
  have hsecond : ∀ a h, h < 16 → bits 6 (a % 4 * 16 + h) = bits 2 a ++ bits 4 h := fun a h hlt =>
    (bits_mul_add 2 4 (a % 4) hlt).trans (congrArg (· ++ bits 4 h) (bits_mod 2 a))
  have hthird : ∀ b h, h < 4 → bits 6 (b % 16 * 4 + h) = bits 4 b ++ bits 2 h := fun b h hlt =>
    (bits_mul_add 4 2 (b % 16) hlt).trans (congrArg (· ++ bits 2 h) (bits_mod 4 b))
  have hafter : ∀ a, bits 8 a = bits 6 (a / 4) ++ bits 2 a := bits_add 6 2
  have hwithin : ∀ b, bits 8 b = bits 4 (b / 16) ++ bits 4 b := bits_add 4 4
  have hbefore : ∀ c, bits 8 c = bits 2 (c / 64) ++ bits 6 c := bits_add 2 6
  fun_induction sextets bytes with
  | case1 a b c rest ih =>
      obtain ⟨unused, hunused, hrest⟩ := ih
      have hb := b.toNat_lt
      have hc := c.toNat_lt
      have hlast : bits 6 (c.toNat % 64) = bits 6 c.toNat := bits_mod 6 c.toNat
      refine ⟨unused, hunused, ?_⟩
      simp only [List.flatMap_cons, hrest, byteBits, hafter a.toNat, hwithin b.toNat, hbefore c.toNat,
        hsecond _ _ (show b.toNat / 16 < 16 by omega), hthird _ _ (show c.toNat / 64 < 4 by omega), hlast,
        List.append_assoc]
  | case2 a b =>
      have hb := b.toNat_lt
      refine ⟨2, by decide, ?_⟩
      have hfilled := hthird b.toNat 0 (by decide)
      simp only [Nat.add_zero] at hfilled
      simp only [List.flatMap_cons, List.flatMap_nil, byteBits, hafter a.toNat, hwithin b.toNat,
        hsecond _ _ (show b.toNat / 16 < 16 by omega), hfilled, List.append_assoc]
      rfl
  | case3 a =>
      refine ⟨4, by decide, ?_⟩
      have hfilled := hsecond a.toNat 0 (by decide)
      simp only [Nat.add_zero] at hfilled
      simp only [List.flatMap_cons, List.flatMap_nil, byteBits, hafter a.toNat, hfilled, List.append_assoc]
      rfl
  | case4 => exact ⟨0, by decide, rfl⟩

theorem length_flatMap_bits (numbers : List Nat) : (numbers.flatMap (bits 6)).length = 6 * numbers.length := by
  induction numbers with
  | nil => rfl
  | cons n numbers ih =>
      rw [List.flatMap_cons, List.length_append, length_bits, ih, List.length_cons]
      omega

theorem flatMap_bits_inj {numbers others : List Nat} (hnumbers : ∀ n ∈ numbers, n < 64)
    (hothers : ∀ n ∈ others, n < 64) (h : numbers.flatMap (bits 6) = others.flatMap (bits 6)) : numbers = others := by
  have hlength : numbers.length = others.length := by
    have hbits := congrArg List.length h
    rw [length_flatMap_bits, length_flatMap_bits] at hbits
    omega
  induction numbers generalizing others with
  | nil => exact (List.eq_nil_of_length_eq_zero hlength.symm).symm
  | cons n numbers ih =>
      cases others with
      | nil => cases hlength
      | cons m others =>
          obtain ⟨hn, hnumbers⟩ := List.forall_mem_cons.mp hnumbers
          obtain ⟨hm, hothers⟩ := List.forall_mem_cons.mp hothers
          rw [List.flatMap_cons, List.flatMap_cons] at h
          obtain ⟨hfirst, hrest⟩ := List.append_inj h (by rw [length_bits, length_bits])
          rw [bits_inj hn hm hfirst, ih hnumbers hothers hrest (Nat.succ.inj hlength)]

/-- There is one way of filling up the bits of bytes to numbers of six bits. -/
theorem eq_sextets_of_flatMap_bits {numbers : List Nat} {bytes : List UInt8} {unused : Nat}
    (hnumbers : ∀ n ∈ numbers, n < 64) (hunused : unused < 6)
    (h : numbers.flatMap (bits 6) = byteBits bytes ++ List.replicate unused false) : numbers = sextets bytes := by
  obtain ⟨filled, hfilled, hsextets⟩ := exists_flatMap_bits_sextets bytes
  obtain rfl : unused = filled := by
    have hlength := congrArg List.length h
    have hlength' := congrArg List.length hsextets
    rw [length_flatMap_bits, List.length_append, List.length_replicate] at hlength hlength'
    omega
  exact flatMap_bits_inj hnumbers (fun _ hn => lt_of_mem_sextets hn) (h.trans hsextets.symm)

/-! ### The written form -/

/-- The symbols that are safe within an address, in the order of their numbers. -/
def alphabet : List Char := "ABCDEFGHIJKLMNOPQRSTUVWXYZabcdefghijklmnopqrstuvwxyz0123456789-_".toList

/-- Characters write bytes: each of them is the symbol of a number of six bits, and together they have the bits of
the bytes, followed by fewer than six zeros. -/
def Writes (cs : List Char) (bytes : List UInt8) : Prop :=
  ∃ numbers unused, List.Forall₂ (fun c n => alphabet[n]? = some c) cs numbers ∧ unused < 6 ∧
    numbers.flatMap (bits 6) = byteBits bytes ++ List.replicate unused false

theorem getElem?_alphabet : ∀ n < 64, alphabet[n]? = some (symbol n) := by decide

theorem getElem?_alphabet_eq_some {n : Nat} {c : Char} (h : alphabet[n]? = some c) : n < 64 ∧ symbol n = c := by
  have hlt : n < 64 := (List.getElem?_eq_some_iff.mp h).1
  rw [getElem?_alphabet n hlt] at h
  exact ⟨hlt, Option.some.inj h⟩

theorem eq_map_symbol_of_forall₂ {cs : List Char} {numbers : List Nat}
    (h : List.Forall₂ (fun c n => alphabet[n]? = some c) cs numbers) :
    (∀ n ∈ numbers, n < 64) ∧ cs = numbers.map symbol := by
  induction h with
  | nil => exact ⟨List.forall_mem_nil _, rfl⟩
  | cons hsymbol _ ih =>
      obtain ⟨hlt, rfl⟩ := getElem?_alphabet_eq_some hsymbol
      obtain ⟨hrest, rfl⟩ := ih
      exact ⟨List.forall_mem_cons.mpr ⟨hlt, hrest⟩, rfl⟩

/-- Bytes have one written form. -/
theorem writes_iff {cs : List Char} {bytes : List UInt8} : Writes cs bytes ↔ encode bytes = cs := by
  rw [encode_eq_map]
  constructor
  · rintro ⟨numbers, unused, hsymbols, hunused, hbits⟩
    obtain ⟨hlt, rfl⟩ := eq_map_symbol_of_forall₂ hsymbols
    rw [eq_sextets_of_flatMap_bits hlt hunused hbits]
  · rintro rfl
    obtain ⟨unused, hunused, hbits⟩ := exists_flatMap_bits_sextets bytes
    refine ⟨sextets bytes, unused, ?_, hunused, hbits⟩
    exact List.forall₂_map_left_iff.mpr (List.forall₂_same.mpr fun n hn => getElem?_alphabet n (lt_of_mem_sextets hn))

end InventorySearch.Text.Base64
