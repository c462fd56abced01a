import InventorySearch.Proofs.Inventory.Join
import InventorySearch.Proofs.Inventory.View
import InventorySearch.Proofs.Order

/-! How rows are sorted. The values that the rows of a typed view are sorted by have one type, where
comparing them is a total preorder. A stable sort puts an element between what lies before it and the rest,
so that fewer rows are sorted to a part of what more rows are sorted to. -/

namespace InventorySearch

section StableSort

variable {α : Type} {le : α → α → Bool}

/-- A stable sort puts the first element before everything that does not lie before it. -/
theorem mergeSort_cons_eq (htrans : ∀ a b c, le a b → le b c → le a c) (htotal : ∀ a b, le a b || le b a)
    (a : α) (l : List α) :
    (a :: l).mergeSort le = (l.mergeSort le).filter (fun b => !le a b) ++
      a :: (l.mergeSort le).filter fun b => le a b := by
  obtain ⟨before, after, hcons, hl, hbefore⟩ := List.mergeSort_cons htrans htotal a l
  have hafter : ∀ b ∈ after, le a b = true := by
    have hsorted := List.pairwise_mergeSort htrans htotal (a :: l)
    rw [hcons] at hsorted
    exact (List.pairwise_cons.mp (List.pairwise_append.mp hsorted).2.1).1
  have hlower : (before ++ after).filter (fun b => !le a b) = before := by
    rw [List.filter_append, List.filter_eq_self.mpr hbefore,
      List.filter_eq_nil_iff.mpr fun b hb => by simp [hafter b hb], List.append_nil]
  have hupper : (before ++ after).filter (fun b => le a b) = after := by
    rw [List.filter_append, List.filter_eq_self.mpr hafter,
      List.filter_eq_nil_iff.mpr fun b hb => by simpa using hbefore b hb, List.nil_append]
  rw [hcons, hl, hlower, hupper]

theorem mergeSort_sublist (htrans : ∀ a b c, le a b → le b c → le a c) (htotal : ∀ a b, le a b || le b a)
    {part whole : List α} (h : part.Sublist whole) : (part.mergeSort le).Sublist (whole.mergeSort le) := by
  -- An element that only the whole list has comes between others; one that both have parts both of them alike.
  induction h with
  | slnil => exact List.Sublist.refl _
  | @cons part whole a _ ih =>
      obtain ⟨before, after, hcons, hwhole, _⟩ := List.mergeSort_cons htrans htotal a whole
      rw [hcons]
      rw [hwhole] at ih
      exact ih.trans ((List.sublist_cons_self a after).append_left before)
  | @cons_cons part whole a _ ih =>
      rw [mergeSort_cons_eq htrans htotal, mergeSort_cons_eq htrans htotal]
      exact (ih.filter _).append ((ih.filter _).cons_cons a)

end StableSort

/-! ### The order of rows -/

theorem compareValues_eq {a b : Option TypedValue}
    (h : ∀ v ∈ a, ∀ w ∈ b, v.valueType = w.valueType) : compareValues a b = compare a b := by
  cases a with
  | none => cases b <;> rfl
  | some a =>
      cases b with
      | none => rfl
      | some b =>
          rw [compareValues, TypedValue.compare?_of_valueType_eq (h a rfl b rfl)]
          rfl

/-- The values that rows are sorted by have one type. -/
def SortedByOneType (rows : List SortedRow) : Prop :=
  ∀ a ∈ rows, ∀ b ∈ rows, ∀ v ∈ a.value, ∀ w ∈ b.value, v.valueType = w.valueType

namespace SortedRow

/-- Compares rows that are sorted by values of any types. -/
def totalOrder : SortDirection → SortedRow → SortedRow → Ordering
  | .asc => compareLex (compareOn value) (compareOn fun a => a.row.id)
  | .desc => compareLex (fun a b => compareOn value b a) (compareOn fun a => a.row.id)

instance (direction : SortDirection) : Std.TransCmp (totalOrder direction) :=
  match direction with
  | .asc => inferInstanceAs (Std.TransCmp (compareLex (compareOn value) (compareOn fun a => a.row.id)))
  | .desc => inferInstanceAs (Std.TransCmp
      (compareLex (fun a b => compareOn value b a) (compareOn fun a => a.row.id)))

theorem order_eq_totalOrder {a b : SortedRow} (h : ∀ v ∈ a.value, ∀ w ∈ b.value, v.valueType = w.valueType)
    (direction : SortDirection) : a.order direction b = totalOrder direction a b := by
  simp only [SortedRow.order, compareValues_eq h]
  cases direction with
  | asc => rfl
  | desc =>
      rw [← Std.OrientedCmp.eq_swap]
      rfl

end SortedRow

theorem mergeSort_eq_of_sortedByOneType {rows : List SortedRow} (h : SortedByOneType rows)
    (direction : SortDirection) :
    (rows.mergeSort fun a b => (a.order direction b).isLE) =
      rows.mergeSort fun a b => (SortedRow.totalOrder direction a b).isLE := by
  -- The comparisons agree on these rows only, so that the sorts are compared along the identity.
  have hsame : ∀ a ∈ rows, ∀ b ∈ rows,
      (a.order direction b).isLE = (SortedRow.totalOrder direction (id a) (id b)).isLE :=
    fun a ha b hb => congrArg Ordering.isLE (SortedRow.order_eq_totalOrder (h a ha b hb) direction)
  simpa using List.map_mergeSort (r := fun a b => (a.order direction b).isLE)
    (s := fun a b => (SortedRow.totalOrder direction a b).isLE) (f := id) hsame

/-- Where fewer rows are produced, they stay in the order that they have among all. -/
theorem mergeSort_sublist_of_sortedByOneType {part whole : List SortedRow} (h : SortedByOneType whole)
    (hpart : part.Sublist whole) (direction : SortDirection) :
    (part.mergeSort fun a b => (a.order direction b).isLE).Sublist
      (whole.mergeSort fun a b => (a.order direction b).isLE) := by
  have hone : SortedByOneType part := fun a ha b hb => h a (hpart.subset ha) b (hpart.subset hb)
  rw [mergeSort_eq_of_sortedByOneType hone, mergeSort_eq_of_sortedByOneType h]
  refine mergeSort_sublist (fun a b c => Std.TransCmp.isLE_trans) (fun a b => ?_) hpart
  have hswap : SortedRow.totalOrder direction b a = (SortedRow.totalOrder direction a b).swap :=
    Std.OrientedCmp.eq_swap
  rw [hswap]
  cases SortedRow.totalOrder direction a b <;> rfl

/-- The rows of a typed view are sorted by values of the type that the catalog gives to the order. -/
theorem sortedByOneType_of_typeRecords {catalog : Catalog} {unknown : UnknownField}
    {records : List InventoryRecord} {view : List TypedRecord}
    (h : typeRecords catalog unknown records = .ok view) (request : SearchRequest) :
    SortedByOneType (view.flatMap fun r => recordRows r request) := by
  have htype : ∀ row ∈ view.flatMap (fun r => recordRows r request), ∀ v ∈ row.value,
      catalog.typeOf? request.order = some v.valueType := by
    intro row hrow v hv
    obtain ⟨r, hr, hrow⟩ := List.mem_flatMap.mp hrow
    exact valueType_of_mem_view h hr (TypedRecord.mem_values_of_mem_recordRows hrow hv)
  intro a ha b hb v hv w hw
  exact Option.some.inj ((htype a ha v hv).symm.trans (htype b hb w hw))

end InventorySearch
