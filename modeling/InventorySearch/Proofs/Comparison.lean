import InventorySearch.Criterion
import InventorySearch.Inventory.Search
import InventorySearch.Proofs.Date
import InventorySearch.Proofs.Number.Order

/-! Comparing values and the operators. The values of each type are totally ordered, and the operators of a
criterion are those that this order has: of less, equal and greater exactly one holds, and the others are told by
these. No operator holds for a value of another type. -/

namespace InventorySearch

open Number (FiniteDouble)

namespace TypedValue

/-! ### The order within a type -/

theorem valueType_of_text? {v : TypedValue} {s : String} (h : v.text? = some s) : v.valueType = .text := by
  cases v with
  | text _ => rfl
  | integer _ | float _ | date _ => cases h

theorem compare?_eq_some_iff {a b : TypedValue} {o : Ordering} :
    a.compare? b = some o ↔ a.valueType = b.valueType ∧ compare a b = o := by
  constructor
  · intro h
    have htype : a.valueType = b.valueType := by
      cases a <;> cases b <;> first | rfl | cases h
    rw [compare?_of_valueType_eq htype] at h
    exact ⟨htype, Option.some.inj h⟩
  · rintro ⟨htype, rfl⟩
    exact compare?_of_valueType_eq htype

theorem compare?_of_valueType_ne {a b : TypedValue} (h : a.valueType ≠ b.valueType) : a.compare? b = none := by
  cases hcompare : a.compare? b with
  | none => rfl
  | some o => exact absurd (compare?_eq_some_iff.mp hcompare).1 h

/-- Only a value itself compares equal with it. -/
theorem compare?_eq_some_eq_iff {a b : TypedValue} : a.compare? b = some .eq ↔ a = b := by
  constructor
  · intro h
    cases a with
    | text s =>
        cases b with
        | text t => exact congrArg text (Std.compare_eq_iff_eq.mp (Option.some.inj h))
        | integer _ | float _ | date _ => cases h
    | integer m =>
        cases b with
        | integer n => exact congrArg integer (Std.compare_eq_iff_eq.mp (Option.some.inj h))
        | text _ | float _ | date _ => cases h
    | float d =>
        cases b with
        | float e => exact congrArg float (FiniteDouble.eq_of_order_eq_eq (Option.some.inj h))
        | text _ | integer _ | date _ => cases h
    | date d =>
        cases b with
        | date e => exact congrArg date (Date.eq_of_order_eq_eq (Option.some.inj h))
        | text _ | integer _ | float _ => cases h
  · rintro rfl
    exact compare?_self a

/-- Turning the values around turns the answer around. -/
theorem compare?_swap (a b : TypedValue) : b.compare? a = (a.compare? b).map Ordering.swap := by
  by_cases htype : a.valueType = b.valueType
  · rw [compare?_of_valueType_eq htype, compare?_of_valueType_eq htype.symm, Std.OrientedOrd.eq_swap]
    rfl
  · rw [compare?_of_valueType_ne htype, compare?_of_valueType_ne (Ne.symm htype)]
    rfl

/-- A value can be compared with another and is not greater. -/
def NotGreater (a b : TypedValue) : Prop := ∃ o, a.compare? b = some o ∧ o.isLE

theorem notGreater_iff {a b : TypedValue} : NotGreater a b ↔ a.valueType = b.valueType ∧ (compare a b).isLE := by
  constructor
  · rintro ⟨o, hcompare, hle⟩
    obtain ⟨htype, rfl⟩ := compare?_eq_some_iff.mp hcompare
    exact ⟨htype, hle⟩
  · rintro ⟨htype, hle⟩
    exact ⟨_, compare?_of_valueType_eq htype, hle⟩

theorem NotGreater.trans {a b c : TypedValue} (hab : NotGreater a b) (hbc : NotGreater b c) : NotGreater a c := by
  rw [notGreater_iff] at *
  exact ⟨hab.1.trans hbc.1, Std.TransCmp.isLE_trans hab.2 hbc.2⟩

theorem NotGreater.antisymm {a b : TypedValue} (hab : NotGreater a b) (hba : NotGreater b a) : a = b := by
  obtain ⟨htype, hab⟩ := notGreater_iff.mp hab
  have heq : compare a b = .eq := Std.OrientedCmp.isLE_antisymm hab (notGreater_iff.mp hba).2
  exact compare?_eq_some_eq_iff.mp (compare?_eq_some_iff.mpr ⟨htype, heq⟩)

theorem notGreater_or_notGreater {a b : TypedValue} (h : a.valueType = b.valueType) :
    NotGreater a b ∨ NotGreater b a := by
  rw [notGreater_iff, notGreater_iff, Std.OrientedOrd.eq_swap (a := b)]
  cases hcompare : compare a b <;> simp [h]

/-- Comparing the values of a type orders them totally. -/
structure TotallyOrders (t : ValueType) : Prop where
  total : ∀ a b : TypedValue, a.valueType = t → b.valueType = t → NotGreater a b ∨ NotGreater b a
  trans : ∀ a b c : TypedValue, a.valueType = t → b.valueType = t → c.valueType = t →
    NotGreater a b → NotGreater b c → NotGreater a c
  antisymm : ∀ a b : TypedValue, a.valueType = t → b.valueType = t → NotGreater a b → NotGreater b a → a = b
  eq_iff : ∀ a b : TypedValue, a.valueType = t → b.valueType = t → (a.compare? b = some .eq ↔ a = b)
  swap : ∀ a b : TypedValue, a.valueType = t → b.valueType = t → b.compare? a = (a.compare? b).map Ordering.swap

theorem totallyOrders (t : ValueType) : TotallyOrders t where
  total _ _ ha hb := notGreater_or_notGreater (ha.trans hb.symm)
  trans _ _ _ _ _ _ := NotGreater.trans
  antisymm _ _ _ _ := NotGreater.antisymm
  eq_iff _ _ _ _ := compare?_eq_some_eq_iff
  swap a b _ _ := compare?_swap a b

end TypedValue

/-! ### Operators -/

namespace Criterion

def asking (c : Criterion) (operator : Operator) : Criterion := { c with operator := operator }

/-- Of less, equal and greater each result of a comparison is accepted by one. -/
theorem existsUnique_accepts (o : Ordering) :
    ∃! operator, operator ∈ [Operator.lt, .eq, .gt] ∧ accepts operator o = true := by
  cases o with
  | lt => exact ⟨.lt, by decide, fun operator => by cases operator <;> decide⟩
  | eq => exact ⟨.eq, by decide, fun operator => by cases operator <;> decide⟩
  | gt => exact ⟨.gt, by decide, fun operator => by cases operator <;> decide⟩

/-- How the operators of a criterion fit together for a value. -/
structure OperatorsCohere (c : Criterion) (v : TypedValue) : Prop where
  one : ∃! operator, operator ∈ [Operator.lt, .eq, .gt] ∧ (c.asking operator).operatorMatches v = true
  lt_iff : (c.asking .lt).operatorMatches v = true ↔ v.compare? c.value = some .lt
  eq_iff : (c.asking .eq).operatorMatches v = true ↔ v = c.value
  gt_iff : (c.asking .gt).operatorMatches v = true ↔ c.value.compare? v = some .lt
  le_iff : (c.asking .le).operatorMatches v = true ↔
    (c.asking .lt).operatorMatches v = true ∨ (c.asking .eq).operatorMatches v = true
  ge_iff : (c.asking .ge).operatorMatches v = true ↔
    (c.asking .gt).operatorMatches v = true ∨ (c.asking .eq).operatorMatches v = true
  ne_iff : (c.asking .ne).operatorMatches v = true ↔ ¬(c.asking .eq).operatorMatches v = true

section

variable {c : Criterion} {v : TypedValue}

/-- Within a type an operator decides by how the value compares. -/
theorem operatorMatches_asking (h : v.valueType = c.value.valueType) {operator : Operator} (hlike : operator ≠ .like) :
    (c.asking operator).operatorMatches v = accepts operator (compare v c.value) := by
  have hcompare : v.compare? (c.asking operator).value = some (compare v c.value) :=
    TypedValue.compare?_of_valueType_eq h
  rw [operatorMatches.eq_def, hcompare]
  cases operator with
  | like => exact absurd rfl hlike
  | eq | ne | lt | le | gt | ge => rfl

theorem operatorsCohere (h : v.valueType = c.value.valueType) : c.OperatorsCohere v := by
  have hmatches : ∀ operator ≠ .like, (c.asking operator).operatorMatches v = accepts operator (compare v c.value) :=
    fun _ => operatorMatches_asking h
  have hcompare : v.compare? c.value = some (compare v c.value) := TypedValue.compare?_of_valueType_eq h
  have hequal : compare v c.value = .eq ↔ v = c.value := by
    rw [← TypedValue.compare?_eq_some_eq_iff, hcompare, Option.some.injEq]
  have hturned : c.value.compare? v = some (compare v c.value).swap := by
    rw [TypedValue.compare?_swap v, hcompare, Option.map_some]
  constructor
  case one =>
    refine (existsUnique_congr fun operator => and_congr_right fun hmem => ?_).mpr
      (existsUnique_accepts (compare v c.value))
    rw [hmatches operator (by rintro rfl; revert hmem; decide)]
  case lt_iff =>
    rw [hmatches .lt nofun, hcompare, accepts, beq_iff_eq, Option.some.injEq]
  case eq_iff =>
    rw [hmatches .eq nofun, accepts, beq_iff_eq, hequal]
  case gt_iff =>
    rw [hmatches .gt nofun, hturned]
    cases compare v c.value <;> decide
  case le_iff =>
    rw [hmatches .le nofun, hmatches .lt nofun, hmatches .eq nofun]
    cases compare v c.value <;> decide
  case ge_iff =>
    rw [hmatches .ge nofun, hmatches .gt nofun, hmatches .eq nofun]
    cases compare v c.value <;> decide
  case ne_iff =>
    rw [hmatches .ne nofun, hmatches .eq nofun]
    cases compare v c.value <;> decide

/-- No operator holds for a value of another type. -/
theorem operatorMatches_of_valueType_ne (h : v.valueType ≠ c.value.valueType) : c.operatorMatches v = false := by
  have hnone : v.compare? c.value = none := TypedValue.compare?_of_valueType_ne h
  unfold operatorMatches
  split
  · split
    next pattern text hpattern htext =>
      -- Patterns are only matched with texts, so that both values have one type.
      refine absurd ?_ h
      rw [TypedValue.valueType_of_text? htext, TypedValue.valueType_of_text? hpattern]
    · rfl
  · rw [hnone]

end

end Criterion

/-- Comparing and the operators fit together. The values of each type are totally ordered, doubles as the numbers
that they stand for with negative zero before zero. Within the type of a criterion's value exactly one of less, equal
and greater holds for a value, by its place in this order, and the other operators are told by these; for a value of
another type no operator holds. Rows are sorted by the same order. -/
theorem comparing_and_operators_cohere :
    (∀ t, TypedValue.TotallyOrders t) ∧
      (∀ d e : FiniteDouble,
        ((TypedValue.float d).compare? (.float e) = some .eq ↔ d.bits = e.bits) ∧
        ((TypedValue.float d).compare? (.float e) = some .lt ↔
          d.value < e.value ∨ d.value = e.value ∧ d.negative = true ∧ e.negative = false)) ∧
      (TypedValue.zero true).compare? (.zero false) = some .lt ∧
      (∀ (c : Criterion) (v : TypedValue), v.valueType = c.value.valueType → c.OperatorsCohere v) ∧
      (∀ (c : Criterion) (v : TypedValue), v.valueType ≠ c.value.valueType →
        ∀ operator, (c.asking operator).operatorMatches v = false) ∧
      ∀ v w : TypedValue, v.valueType = w.valueType → v.compare? w = some (compareValues (some v) (some w)) := by
  refine ⟨TypedValue.totallyOrders, fun d e => ⟨?_, ?_⟩, by decide, fun c v => Criterion.operatorsCohere,
    fun c v h operator => Criterion.operatorMatches_of_valueType_ne h, fun v w h => ?_⟩
  · rw [TypedValue.compare?_eq_some_eq_iff, FiniteDouble.bits_inj, TypedValue.float.injEq]
  · rw [← FiniteDouble.order_eq_lt_iff, TypedValue.compare?, Option.some.injEq]
  · rw [compareValues, TypedValue.compare?_of_valueType_eq h, Option.getD_some]

end InventorySearch
