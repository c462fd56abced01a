import InventorySearch.Proofs.Value

/-! The order of values. Values of one type are compared by what they hold: doubles by the order of their
bits, dates by time. This order extends to values of all types together, where it has the laws that sorting
relies on. -/

namespace InventorySearch

instance : Ord Number.FiniteDouble := ⟨Number.FiniteDouble.order⟩

instance : Std.TransOrd Number.FiniteDouble :=
  inferInstanceAs (Std.TransCmp (compareOn Number.FiniteDouble.rank))

instance : Ord Date := ⟨Date.order⟩

instance : Std.TransOrd Date :=
  inferInstanceAs (Std.TransCmp (compareLex (compareOn Date.year)
    (compareLex (compareOn Date.month) (compareOn Date.day))))

namespace TypedValue

def integer? : TypedValue → Option Int64
  | integer n => some n
  | _ => none

def float? : TypedValue → Option Number.FiniteDouble
  | float d => some d
  | _ => none

def date? : TypedValue → Option Date
  | date d => some d
  | _ => none

/-- Compares values of all types by what they hold of each type in turn. -/
def order : TypedValue → TypedValue → Ordering :=
  compareLex (compareOn text?) (compareLex (compareOn integer?)
    (compareLex (compareOn float?) (compareOn date?)))

instance : Ord TypedValue := ⟨order⟩

instance : Std.TransOrd TypedValue :=
  inferInstanceAs (Std.TransCmp (compareLex (compareOn text?) (compareLex (compareOn integer?)
    (compareLex (compareOn float?) (compareOn date?)))))

/-- Values of one type are compared as the order of all values does. -/
theorem compare?_of_valueType_eq {a b : TypedValue} (h : a.valueType = b.valueType) :
    a.compare? b = some (compare a b) := by
  have hcompare : compare a b = order a b := rfl
  rw [hcompare, order]
  cases a <;> cases b <;> cases h
  all_goals
    simp only [compare?, compareLex, compareOn, text?, integer?, float?, date?, Std.ReflOrd.compare_self,
      Ordering.eq_then, Ordering.then_eq]
    rfl

theorem compare?_self (v : TypedValue) : v.compare? v = some .eq := by
  rw [compare?_of_valueType_eq rfl, Std.ReflOrd.compare_self]

end TypedValue

end InventorySearch
