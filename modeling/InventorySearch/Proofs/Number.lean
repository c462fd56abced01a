import InventorySearch.Number.Reading
import InventorySearch.Number.Shortest
import InventorySearch.Proofs.Text.Blank
import InventorySearch.Proofs.Text.Digit
import Mathlib.Tactic.SplitIfs

/-! Texts of numbers. A whole number is read back from its text, which has no blanks. A text that is read as a
whole number has neither a point nor an exponent, while the text of a double always has one. -/

namespace InventorySearch.Number

variable {cs : List Char}

theorem digits?_eq_some_iff {n : Nat} :
    digits? cs = some n ↔ cs ≠ [] ∧ (∀ c ∈ cs, c.isDigit = true) ∧ Nat.ofDigitChars 10 cs 0 = n := by
  rw [digits?, ← List.all_eq_true, ← and_assoc, Text.digitsValue_eq_ofDigitChars]
  cases cs <;> simp

theorem digits?_toDigits (n : Nat) : digits? (Nat.toDigits 10 n) = some n :=
  digits?_eq_some_iff.mpr ⟨Nat.toDigits_ne_nil, fun _ => Nat.isDigit_of_mem_toDigits (by decide) (by decide),
    Nat.ofDigitChars_ten_toDigits⟩

theorem signed?_minus (cs : List Char) : signed? ('-' :: cs) = (digits? cs).map fun k : Nat => -(k : Int) := by
  rw [signed?]
  cases digits? cs <;> rfl

/-- Before a digit there is no sign. -/
theorem signed?_of_isDigit {c : Char} (h : c.isDigit = true) :
    signed? (c :: cs) = (digits? (c :: cs)).map fun k : Nat => (k : Int) := by
  unfold signed?
  split
  next heq =>
    cases heq
    cases h
  next heq =>
    cases heq
    cases h
  · cases digits? (c :: cs) <;> rfl

/-- A whole number is read back from its text. -/
theorem signed?_toString (n : Int) : signed? (toString n).toList = some n := by
  cases n with
  | ofNat n =>
      show signed? n.repr.toList = _
      have hdigits := digits?_toDigits n
      obtain ⟨hne, hdigit, _⟩ := digits?_eq_some_iff.mp hdigits
      rw [Nat.toList_repr]
      cases hchars : Nat.toDigits 10 n with
      | nil => exact absurd hchars hne
      | cons c cs =>
          rw [hchars] at hdigit hdigits
          rw [signed?_of_isDigit (hdigit c List.mem_cons_self), hdigits]
          rfl
  | negSucc n =>
      show signed? ("-" ++ (n + 1).repr).toList = _
      rw [String.toList_append, Nat.toList_repr]
      calc
        signed? ('-' :: Nat.toDigits 10 (n + 1)) = (some (n + 1)).map fun k : Nat => -(k : Int) := by
          rw [signed?_minus, digits?_toDigits]
        _ = some (Int.negSucc n) := rfl

/-- Digits and a sign are all that a whole number is read from. -/
theorem isDigit_or_sign_of_signed? {n : Int} (h : signed? cs = some n) :
    ∀ c ∈ cs, c.isDigit = true ∨ c = '-' ∨ c = '+' := by
  intro c hc
  unfold signed? at h
  split at h
  all_goals
    obtain ⟨_, hcast, _⟩ := Option.map_eq_some_iff.mp h
    obtain ⟨k, hk, _⟩ := Option.bind_eq_some_iff.mp hcast
    have hdigits := (digits?_eq_some_iff.mp hk).2.1
  · rcases List.mem_cons.mp hc with rfl | hc
    · exact Or.inr (Or.inl rfl)
    · exact Or.inl (hdigits c hc)
  · rcases List.mem_cons.mp hc with rfl | hc
    · exact Or.inr (Or.inr rfl)
    · exact Or.inl (hdigits c hc)
  · exact Or.inl (hdigits c hc)

theorem trim_toString (n : Int) : Text.trim (toString n) = toString n := by
  apply Text.trim_eq_self
  intro c hc
  rcases isDigit_or_sign_of_signed? (signed?_toString n) c hc with hdigit | rfl | rfl
  · exact Text.isBlank_of_isDigit hdigit
  · rfl
  · rfl

namespace FiniteDouble

theorem mem_layout (digits : List Char) (places : Int) :
    '.' ∈ layout digits places ∨ 'e' ∈ layout digits places := by
  unfold layout
  split_ifs <;> simp

/-- The text of a double has a point or an exponent. -/
theorem mem_toText (d : FiniteDouble) : '.' ∈ d.toText.toList ∨ 'e' ∈ d.toText.toList := by
  rw [toText]
  by_cases hzero : d.magnitude = 0
  · rw [if_pos hzero, String.toList_ofList]
    left
    simp
  · rw [if_neg hzero, String.toList_ofList, List.mem_append, List.mem_append]
    exact (mem_layout _ _).imp Or.inr Or.inr

end FiniteDouble

end InventorySearch.Number
