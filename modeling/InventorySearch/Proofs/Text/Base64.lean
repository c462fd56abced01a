import InventorySearch.Proofs.Results
import InventorySearch.Text.Base64
import Mathlib.Tactic.SplitIfs

/-! Base64 regroups the eight bits of each byte into numbers of six bits. Bytes of any length are read back from
their written form, and every symbol of it is an ASCII letter, a digit or one of two signs. -/

namespace InventorySearch.Text.Base64

/-! ### Symbols -/

/-- A character that base64 is written with. -/
def IsSymbol (c : Char) : Prop := c.isAlphanum = true ∨ c = '-' ∨ c = '_'

instance (c : Char) : Decidable (IsSymbol c) := inferInstanceAs (Decidable (_ ∨ _))

/-- The byte of the symbol of a number. -/
def symbolByte (n : Nat) : UInt8 := UInt8.ofNat (symbol n).toNat

theorem isSymbol_symbol : ∀ n < 64, IsSymbol (symbol n) := by decide

theorem symbol_toNat_lt : ∀ n < 64, (symbol n).toNat < 128 := by decide

theorem value?_symbolByte : ∀ n < 64, value? (symbolByte n) = some n := by decide

theorem symbolByte_ne_pad {n : Nat} (h : n < 64) : symbolByte n ≠ pad := by
  intro heq
  have hvalue := value?_symbolByte n h
  rw [heq] at hvalue
  cases hvalue

theorem symbolAt_symbolByte (offset : Nat) {n : Nat} (h : n < 64) : symbolAt offset (symbolByte n) = .ok n := by
  rw [symbolAt, value?_symbolByte n h]

/-! ### Numbers of six bits -/

/-- The bits of bytes as numbers of six bits, zeros filling up the last one. -/
def sextets : List UInt8 → List Nat
  | a :: b :: c :: rest =>
      a.toNat / 4 :: (a.toNat % 4 * 16 + b.toNat / 16) :: (b.toNat % 16 * 4 + c.toNat / 64) :: c.toNat % 64 ::
        sextets rest
  | [a, b] => [a.toNat / 4, a.toNat % 4 * 16 + b.toNat / 16, b.toNat % 16 * 4]
  | [a] => [a.toNat / 4, a.toNat % 4 * 16]
  | [] => []

theorem encode_eq_map (bytes : List UInt8) : encode bytes = (sextets bytes).map symbol := by
  fun_induction encode bytes with
  | case1 a b c rest n ih =>
      have ha := a.toNat_lt
      have hb := b.toNat_lt
      have hc := c.toNat_lt
      have h₁ : n / 262144 = a.toNat / 4 := by omega
      have h₂ : n / 4096 % 64 = a.toNat % 4 * 16 + b.toNat / 16 := by omega
      have h₃ : n / 64 % 64 = b.toNat % 16 * 4 + c.toNat / 64 := by omega
      have h₄ : n % 64 = c.toNat % 64 := by omega
      rw [sextets, h₁, h₂, h₃, h₄, ih]
      rfl
  | case2 a b n =>
      have ha := a.toNat_lt
      have hb := b.toNat_lt
      have h₁ : n / 4096 = a.toNat / 4 := by omega
      have h₂ : n / 64 % 64 = a.toNat % 4 * 16 + b.toNat / 16 := by omega
      have h₃ : n % 64 = b.toNat % 16 * 4 := by omega
      rw [sextets, h₁, h₂, h₃]
      rfl
  | case3 a n =>
      have ha := a.toNat_lt
      have h₁ : n / 64 = a.toNat / 4 := by omega
      have h₂ : n % 64 = a.toNat % 4 * 16 := by omega
      rw [sextets, h₁, h₂]
      rfl
  | case4 => rfl

theorem lt_of_mem_sextets {bytes : List UInt8} {n : Nat} (h : n ∈ sextets bytes) : n < 64 := by
  fun_induction sextets bytes with
  | case1 a b c rest ih =>
      have ha := a.toNat_lt
      have hb := b.toNat_lt
      have hc := c.toNat_lt
      simp only [List.mem_cons] at h
      rcases h with rfl | rfl | rfl | rfl | h
      · omega
      · omega
      · omega
      · omega
      · exact ih h
  | case2 a b =>
      have ha := a.toNat_lt
      have hb := b.toNat_lt
      simp only [List.mem_cons, List.not_mem_nil, or_false] at h
      omega
  | case3 a =>
      have ha := a.toNat_lt
      simp only [List.mem_cons, List.not_mem_nil, or_false] at h
      omega
  | case4 => cases h

theorem isSymbol_of_mem_encode {bytes : List UInt8} {c : Char} (h : c ∈ encode bytes) : IsSymbol c := by
  rw [encode_eq_map] at h
  obtain ⟨n, hn, rfl⟩ := List.mem_map.mp h
  exact isSymbol_symbol n (lt_of_mem_sextets hn)

theorem toNat_lt_of_mem_encode {bytes : List UInt8} {c : Char} (h : c ∈ encode bytes) : c.toNat < 128 := by
  rw [encode_eq_map] at h
  obtain ⟨n, hn, rfl⟩ := List.mem_map.mp h
  exact symbol_toNat_lt n (lt_of_mem_sextets hn)

/-! ### Bytes from numbers of six bits -/

theorem first_byte (a b : UInt8) :
    UInt8.ofNat (a.toNat / 4 * 4 + (a.toNat % 4 * 16 + b.toNat / 16) / 16) = a := by
  have hb := b.toNat_lt
  have h : a.toNat / 4 * 4 + (a.toNat % 4 * 16 + b.toNat / 16) / 16 = a.toNat := by omega
  rw [h, UInt8.ofNat_toNat]

theorem second_byte (a b c : UInt8) :
    UInt8.ofNat ((a.toNat % 4 * 16 + b.toNat / 16) % 16 * 16 + (b.toNat % 16 * 4 + c.toNat / 64) / 4) = b := by
  have hb := b.toNat_lt
  have hc := c.toNat_lt
  have h : (a.toNat % 4 * 16 + b.toNat / 16) % 16 * 16 + (b.toNat % 16 * 4 + c.toNat / 64) / 4 = b.toNat := by
    omega
  rw [h, UInt8.ofNat_toNat]

theorem third_byte (b c : UInt8) :
    UInt8.ofNat ((b.toNat % 16 * 4 + c.toNat / 64) % 4 * 64 + c.toNat % 64) = c := by
  have hc := c.toNat_lt
  have h : (b.toNat % 16 * 4 + c.toNat / 64) % 4 * 64 + c.toNat % 64 = c.toNat := by omega
  rw [h, UInt8.ofNat_toNat]

/-! ### Reading -/

theorem lastGroup_symbolByte {numbers : List Nat} (h : ∀ n ∈ numbers, n < 64) (offset position : Nat) :
    lastGroup offset position none (numbers.map symbolByte) = .ok (numbers, false) := by
  induction numbers generalizing position with
  | nil => rfl
  | cons n numbers ih =>
      obtain ⟨hn, hrest⟩ := List.forall_mem_cons.mp h
      rw [List.map_cons, lastGroup, if_neg (symbolByte_ne_pad hn)]
      simp only [symbolAt_symbolByte _ hn, ih hrest]

/-- The last group is read back, whether it stands for one, two or three bytes. -/
theorem lastBytes_sextets (offset : Nat) (group : List UInt8) (h : group.length ≤ 3) :
    lastBytes offset ((sextets group).map symbolByte) = .ok group := by
  have hread : lastGroup offset 0 none ((sextets group).map symbolByte) = .ok (sextets group, false) :=
    lastGroup_symbolByte (fun n hn => lt_of_mem_sextets hn) offset 0
  rw [lastBytes, hread]
  match group with
  | [] => rfl
  | [a] =>
      have hfirst : UInt8.ofNat (a.toNat / 4 * 4 + a.toNat % 4 * 16 / 16) = a := first_byte a 0
      have hunused : a.toNat % 4 * 16 % 16 = 0 := by omega
      simp only [sextets, hunused, if_true, hfirst]
  | [a, b] =>
      have hsecond : UInt8.ofNat ((a.toNat % 4 * 16 + b.toNat / 16) % 16 * 16 + b.toNat % 16 * 4 / 4) = b :=
        second_byte a b 0
      have hunused : b.toNat % 16 * 4 % 4 = 0 := by omega
      simp only [sextets, hunused, if_true, first_byte, hsecond]
  | [a, b, c] => simp only [sextets, first_byte, second_byte, third_byte]
  | _ :: _ :: _ :: _ :: _ =>
      simp only [List.length_cons] at h
      omega

theorem sextets_eq_nil_iff {bytes : List UInt8} : sextets bytes = [] ↔ bytes = [] := by
  fun_cases sextets bytes <;> simp

theorem decodeFrom_sextets (offset : Nat) (bytes : List UInt8) :
    decodeFrom offset ((sextets bytes).map symbolByte) = .ok bytes := by
  fun_induction sextets bytes generalizing offset with
  | case1 a b c rest ih =>
      by_cases hrest : rest = []
      · subst hrest
        exact lastBytes_sextets offset [a, b, c] (Nat.le_refl 3)
      · have hmore : ¬((sextets rest).map symbolByte).isEmpty = true := by
          rwa [List.isEmpty_iff, List.map_eq_nil_iff, sextets_eq_nil_iff]
        have ha := a.toNat_lt
        have hb := b.toNat_lt
        have hc := c.toNat_lt
        rw [List.map_cons, List.map_cons, List.map_cons, List.map_cons, decodeFrom, if_neg hmore,
          symbolAt_symbolByte _ (by omega), symbolAt_symbolByte _ (by omega), symbolAt_symbolByte _ (by omega),
          symbolAt_symbolByte _ (by omega), ih]
        simp only [first_byte, second_byte, third_byte, bind, Except.bind, pure, Except.pure]
  | case2 a b => exact lastBytes_sextets offset [a, b] (Nat.le_succ 2)
  | case3 a => exact lastBytes_sextets offset [a] (Nat.le_add_left 1 2)
  | case4 => rfl

theorem strayLast?_symbolByte {numbers : List Nat} (h : ∀ n ∈ numbers, n < 64) :
    strayLast? (numbers.map symbolByte) = none := by
  unfold strayLast?
  split_ifs
  · cases hlast : (numbers.map symbolByte).getLast? with
    | none => rfl
    | some b =>
        obtain ⟨n, hn, rfl⟩ := List.mem_map.mp (List.mem_of_getLast? hlast)
        simp [value?_symbolByte n (h n hn)]
  · rfl

theorem map_encode (bytes : List UInt8) :
    ((encode bytes).map fun c => UInt8.ofNat c.toNat) = (sextets bytes).map symbolByte := by
  rw [encode_eq_map, List.map_map]
  rfl

/-- Bytes are read back from their written form. -/
theorem decode_encode (bytes : List UInt8) : decode ((encode bytes).map fun c => UInt8.ofNat c.toNat) = .ok bytes := by
  rw [map_encode, decode, strayLast?_symbolByte fun n hn => lt_of_mem_sextets hn]
  exact decodeFrom_sextets 0 bytes

end InventorySearch.Text.Base64
