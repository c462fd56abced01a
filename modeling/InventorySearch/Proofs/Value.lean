import InventorySearch.Proofs.Results
import InventorySearch.Value

/-! What reading a value says about its type, and which different values are the same number: the two
zeros, and no others. -/

namespace InventorySearch

open Number (FiniteDouble)

namespace TypedValue

theorem valueType_of_read {t : ValueType} {raw : String} {v : TypedValue} (h : read t raw = .ok v) :
    v.valueType = t := by
  cases t with
  | text =>
      cases h
      rfl
  | integer =>
      simp only [read, readInteger] at h
      split at h <;> cases h
      rfl
  | float =>
      simp only [read, readFloat] at h
      split at h <;> cases h
      rfl
  | date =>
      simp only [read, readDate] at h
      split at h
      · cases h
      · split at h <;> cases h
        rfl

/-- The parameter that a text was given in only matters for the error. -/
theorem parse_eq_ok_iff {t : ValueType} {raw param : String} {v : TypedValue} :
    parse t raw param = .ok v ↔ read t raw = .ok v :=
  mapError_eq_ok_iff

theorem valueType_of_ofJson {t : ValueType} {stored : Json} {param : String} {v : TypedValue}
    (h : ofJson t stored param = .ok (some v)) : v.valueType = t := by
  unfold ofJson at h
  split at h
  · cases h
  · split at h <;> cases h
    rfl
  · split at h <;> cases h
    rfl
  · cases h
    rfl
  · cases h
    rfl
  · obtain ⟨w, hw, hv⟩ := map_eq_ok_iff.mp h
    cases hv
    exact valueType_of_read (parse_eq_ok_iff.mp hw)
  · cases h

/-- Only null is read as no value. -/
theorem eq_null_of_ofJson {t : ValueType} {stored : Json} {param : String} (h : ofJson t stored param = .ok none) :
    stored = .null := by
  unfold ofJson at h
  split at h
  · rfl
  · split at h <;> cases h
  · split at h <;> cases h
  · cases h
  · cases h
  · obtain ⟨v, _, hv⟩ := map_eq_ok_iff.mp h
    cases hv
  · cases h

theorem exists_ofJson_iff {t : ValueType} {stored : Json} {param : String} :
    (∃ out, ofJson t stored param = .ok out) ↔
      stored = .null ∨ ∃ v, ofJson t stored param = .ok (some v) := by
  constructor
  · rintro ⟨_ | v, h⟩
    · exact Or.inl (eq_null_of_ofJson h)
    · exact Or.inr ⟨v, h⟩
  · rintro (rfl | ⟨v, h⟩)
    · exact ⟨none, by simp [ofJson]⟩
    · exact ⟨some v, h⟩

def zero (negative : Bool) : TypedValue := float (.zero negative)

theorem same_self (v : TypedValue) : v.same v = true := by
  cases v <;> simp [same, FiniteDouble.sameNumber]

theorem sameNumber_iff {a b : FiniteDouble} :
    a.sameNumber b = true ↔ a = b ∨ ∃ negative, a = .zero negative ∧ b = .zero (!negative) := by
  obtain ⟨negativeA, magnitudeA, _⟩ := a
  obtain ⟨negativeB, magnitudeB, _⟩ := b
  simp only [FiniteDouble.sameNumber, FiniteDouble.zero, FiniteDouble.mk.injEq, Bool.and_eq_true,
    Bool.or_eq_true, beq_iff_eq]
  constructor
  · rintro ⟨hmagnitude, hnegative | hzero⟩
    · exact Or.inl ⟨hnegative, hmagnitude⟩
    · by_cases hnegative : negativeA = negativeB
      · exact Or.inl ⟨hnegative, hmagnitude⟩
      · exact Or.inr ⟨negativeA, ⟨rfl, hzero⟩, by cases negativeA <;> cases negativeB <;> simp_all,
          hmagnitude ▸ hzero⟩
  · rintro (⟨hnegative, hmagnitude⟩ | ⟨negative, ⟨_, hzeroA⟩, _, hzeroB⟩)
    · exact ⟨hmagnitude, Or.inl hnegative⟩
    · exact ⟨hzeroA.trans hzeroB.symm, Or.inr hzeroA⟩

/-- Values are the same when they are equal or the two zeros. -/
theorem same_iff {a b : TypedValue} :
    a.same b = true ↔ a = b ∨ ∃ negative, a = zero negative ∧ b = zero (!negative) := by
  cases a with
  | float a =>
      cases b with
      | float b => simp only [same, sameNumber_iff, zero, float.injEq]
      | _ => simp [same, zero]
  | _ => simp [same, zero]

theorem same_symm {a b : TypedValue} (h : a.same b = true) : b.same a = true := by
  rw [same_iff] at h ⊢
  rcases h with rfl | ⟨negative, rfl, rfl⟩
  · exact Or.inl rfl
  · exact Or.inr ⟨!negative, rfl, by rw [Bool.not_not]⟩

theorem same_trans {a b c : TypedValue} (hab : a.same b = true) (hbc : b.same c = true) : a.same c = true := by
  rw [same_iff] at hab
  rcases hab with rfl | ⟨negative, rfl, rfl⟩
  · exact hbc
  · rw [same_iff] at hbc
    rcases hbc with rfl | ⟨other, _, rfl⟩
    · exact same_iff.mpr (Or.inr ⟨negative, rfl, rfl⟩)
    · cases negative <;> cases other <;> rfl

/-- Where negative zero does not occur, values are the same only when they are equal. -/
theorem same_iff_eq {a b : TypedValue} (ha : a ≠ zero true) (hb : b ≠ zero true) :
    a.same b = true ↔ a = b := by
  rw [same_iff]
  constructor
  · rintro (heq | ⟨negative, hzeroA, hzeroB⟩)
    · exact heq
    · cases negative
      · exact absurd hzeroB hb
      · exact absurd hzeroA ha
  · exact Or.inl

end TypedValue

end InventorySearch
