import InventorySearch.Number.Double
import Mathlib.Order.Monotone.Basic
import Mathlib.Tactic.SplitIfs

/-! The order of doubles. Doubles compare equal only when their bits are the same, and their order is that of the
numbers that they stand for, with negative zero before zero. -/

namespace InventorySearch.Number.FiniteDouble

/-! ### Magnitudes -/

/-- What a magnitude stands for, in units of the least positive double. -/
def unitsOf (magnitude : Nat) : Nat :=
  if magnitude < Nat.pow 2 52 then magnitude
  else (Nat.pow 2 52 + magnitude % Nat.pow 2 52) * Nat.pow 2 (magnitude / Nat.pow 2 52 - 1)

theorem unitsOf_lt_unitsOf_succ (magnitude : Nat) : unitsOf magnitude < unitsOf (magnitude + 1) := by
  have hsize : Nat.pow 2 52 = 4503599627370496 := rfl
  rw [unitsOf, unitsOf, hsize]
  split_ifs with hsmall hnext hnext
  · omega
  · obtain rfl : magnitude = 4503599627370495 := by omega
    decide
  · omega
  · generalize hunit : Nat.pow 2 (magnitude / 4503599627370496 - 1) = unit
    have hpos : 0 < unit := hunit ▸ Nat.pow_pos (by decide)
    -- Within one exponent the significand grows by one; from one exponent to the next the unit doubles.
    by_cases hlast : magnitude % 4503599627370496 + 1 < 4503599627370496
    · have hexponent : (magnitude + 1) / 4503599627370496 = magnitude / 4503599627370496 := by omega
      have hfraction : (magnitude + 1) % 4503599627370496 = magnitude % 4503599627370496 + 1 := by omega
      rw [hexponent, hfraction, hunit]
      exact Nat.mul_lt_mul_of_pos_right (by omega) hpos
    · have hexponent : (magnitude + 1) / 4503599627370496 - 1 = magnitude / 4503599627370496 - 1 + 1 := by omega
      have hfraction : (magnitude + 1) % 4503599627370496 = 0 := by omega
      have hdouble : Nat.pow 2 (magnitude / 4503599627370496 - 1 + 1) = unit * 2 := by rw [← hunit]; rfl
      have hbelow : (4503599627370496 + magnitude % 4503599627370496) * unit < 9007199254740992 * unit :=
        Nat.mul_lt_mul_of_pos_right (by omega) hpos
      rw [hexponent, hfraction, hdouble]
      omega

theorem unitsOf_strictMono : StrictMono unitsOf :=
  strictMono_nat_of_lt_succ unitsOf_lt_unitsOf_succ

/-! ### Numbers -/

/-- The number that a double stands for, in units of the least positive double. -/
def value (d : FiniteDouble) : Int :=
  let units : Nat := d.significand * Nat.pow 2 (d.exponent + 1074).toNat
  if d.negative then -units else units

theorem value_eq (d : FiniteDouble) :
    d.value = if d.negative then -(unitsOf d.magnitude : Int) else unitsOf d.magnitude := by
  have hunits : d.significand * Nat.pow 2 (d.exponent + 1074).toNat = unitsOf d.magnitude := by
    rw [significand, exponent, unitsOf]
    split_ifs with hsmall
    · exact Nat.mul_one d.magnitude
    · have hsize : Nat.pow 2 52 = 4503599627370496 := rfl
      rw [hsize] at hsmall ⊢
      have hexponent : (((d.magnitude / 4503599627370496 : Nat) : Int) - 1075 + 1074).toNat =
          d.magnitude / 4503599627370496 - 1 := by omega
      rw [hexponent]
  rw [value, hunits]

theorem order_eq_lt_iff_rank {a b : FiniteDouble} : a.order b = .lt ↔ a.rank < b.rank :=
  Int.compare_eq_lt

/-- The order of doubles is that of the numbers that they stand for, and negative zero is before zero. -/
theorem order_eq_lt_iff {a b : FiniteDouble} :
    a.order b = .lt ↔ a.value < b.value ∨ a.value = b.value ∧ a.negative = true ∧ b.negative = false := by
  have hlt : unitsOf a.magnitude < unitsOf b.magnitude ↔ a.magnitude < b.magnitude := unitsOf_strictMono.lt_iff_lt
  have hgt : unitsOf b.magnitude < unitsOf a.magnitude ↔ b.magnitude < a.magnitude := unitsOf_strictMono.lt_iff_lt
  rw [order_eq_lt_iff_rank, rank, rank, value_eq, value_eq]
  cases a.negative <;> cases b.negative <;>
    simp only [Bool.false_eq_true, if_true, if_false, reduceCtorEq, and_false, and_true, or_false] <;>
    omega

theorem eq_of_order_eq_eq {a b : FiniteDouble} (h : a.order b = .eq) : a = b := by
  have hrank : a.rank = b.rank := Int.compare_eq_eq.mp h
  obtain ⟨negative, magnitude, _⟩ := a
  obtain ⟨negative', magnitude', _⟩ := b
  rw [rank, rank] at hrank
  cases negative <;> cases negative' <;>
    simp only [Bool.false_eq_true, if_true, if_false, mk.injEq, reduceCtorEq, true_and, false_and] at hrank ⊢ <;>
    omega

/-- A double is told by its bits. -/
theorem bits_inj {a b : FiniteDouble} : a.bits = b.bits ↔ a = b := by
  constructor
  · intro h
    obtain ⟨negative, magnitude, hlt⟩ := a
    obtain ⟨negative', magnitude', hlt'⟩ := b
    have hsign : infiniteMagnitude < Nat.pow 2 63 := by decide
    rw [bits, bits] at h
    cases negative <;> cases negative' <;>
      simp only [Bool.false_eq_true, if_true, if_false, mk.injEq, reduceCtorEq, true_and, false_and] at h ⊢ <;>
      omega
  · exact congrArg bits

end InventorySearch.Number.FiniteDouble
