import InventorySearch.Criterion
import InventorySearch.Proofs.Value

/-! A criterion can be built from a key, an operator and a text exactly when it is well-formed: the catalog
gives a type to the key, the operator is one for this type, and the text reads as the value. -/

namespace InventorySearch.Criterion

/-- What is true of every criterion that a catalog lets be built. -/
def WellFormed (catalog : Catalog) (c : Criterion) : Prop :=
  ∃ t, catalog.typeOf? c.key = some t ∧ c.operator.allowedFor t = true ∧ TypedValue.read t c.raw = .ok c.value

theorem build_eq_ok_iff {catalog : Catalog} {key : String} {operator : Operator} {raw : String} {invert : Bool}
    {params : CriterionParams} {c : Criterion} :
    build catalog key operator raw invert params = .ok c ↔
      (c.key = key ∧ c.operator = operator ∧ c.raw = raw ∧ c.invert = invert) ∧ c.WellFormed catalog := by
  unfold build WellFormed
  constructor
  · intro h
    split at h
    · cases h
    next t ht =>
      split at h
      next hallowed =>
        obtain ⟨value, hvalue, rfl⟩ := map_eq_ok_iff.mp h
        exact ⟨⟨rfl, rfl, rfl, rfl⟩, t, ht, hallowed, TypedValue.parse_eq_ok_iff.mp hvalue⟩
      · cases h
  · obtain ⟨_, _, _, value, _⟩ := c
    rintro ⟨⟨rfl, rfl, rfl, rfl⟩, t, ht, hallowed, hread⟩
    simp only at ht hallowed hread
    rw [ht]
    simp only [if_pos hallowed]
    exact map_eq_ok_iff.mpr ⟨value, TypedValue.parse_eq_ok_iff.mpr hread, rfl⟩

/-- The value of a criterion has the type that the catalog gives to its key. -/
theorem WellFormed.typeOf?_eq {catalog : Catalog} {c : Criterion} (h : c.WellFormed catalog) :
    catalog.typeOf? c.key = some c.value.valueType := by
  obtain ⟨t, ht, _, hread⟩ := h
  rw [ht, TypedValue.valueType_of_read hread]

end InventorySearch.Criterion
