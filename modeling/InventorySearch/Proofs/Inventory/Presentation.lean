import InventorySearch.Proofs.Inventory.Join

/-! The columns of a search only decide what its rows show. Rows are sorted by a value of their own and by
the id of their record, so that the same computers come in the same order whatever is shown of them. -/

namespace InventorySearch

/-- A row without what it shows. -/
def SortedRow.bare (row : SortedRow) : SortedRow := ⟨row.value, ⟨row.row.id, []⟩⟩

theorem order_bare (direction : SortDirection) (a b : SortedRow) :
    a.bare.order direction b.bare = a.order direction b :=
  rfl

theorem map_bare_recordRows (r : TypedRecord) (request : SearchRequest) (columns : List String)
    (customSearch : Bool) :
    (recordRows r { request with columns := columns, customSearch := customSearch }).map SortedRow.bare =
      (recordRows r request).map SortedRow.bare := by
  rw [recordRows_eq, recordRows_eq]
  split_ifs
  · rfl
  · rw [List.map_map, List.map_map]
    rfl

/-- The computers that a search finds, from its rows without what they show. -/
theorem map_id_searchView_eq (view : List TypedRecord) (request : SearchRequest) :
    (searchView view request).map (·.id) =
      (((view.flatMap fun r => recordRows r request).map SortedRow.bare).mergeSort
        fun a b => (a.order request.direction b).isLE).map (·.row.id) := by
  rw [← List.map_mergeSort fun a _ b _ => congrArg Ordering.isLE (order_bare _ a b).symm, searchView,
    List.map_map, List.map_map]
  rfl

/-- Searches that differ only in the columns find the same computers in the same order. -/
theorem map_id_searchView (view : List TypedRecord) (request : SearchRequest) (columns : List String)
    (customSearch : Bool) :
    (searchView view { request with columns := columns, customSearch := customSearch }).map (·.id) =
      (searchView view request).map (·.id) := by
  rw [map_id_searchView_eq, map_id_searchView_eq, List.map_flatMap, List.map_flatMap]
  simp only [map_bare_recordRows]

/-! ### Which computers are found -/

/-- A record with the id gives a row. -/
def Finds (view : List TypedRecord) (request : SearchRequest) (id : Int64) : Prop :=
  ∃ r ∈ view, r.id = id ∧ recordRows r request ≠ []

theorem id_of_mem_recordRows {r : TypedRecord} {request : SearchRequest} {row : SortedRow}
    (h : row ∈ recordRows r request) : row.row.id = r.id := by
  rw [recordRows_eq] at h
  split_ifs at h
  · cases h
  · obtain ⟨combination, _, rfl⟩ := List.mem_map.mp h
    rfl

theorem mem_map_id_searchView_iff {view : List TypedRecord} {request : SearchRequest} {id : Int64} :
    id ∈ (searchView view request).map (·.id) ↔ Finds view request id := by
  constructor
  · intro h
    obtain ⟨row, hrow, rfl⟩ := List.mem_map.mp h
    obtain ⟨r, hr, hrow⟩ := mem_searchView.mp hrow
    obtain ⟨sorted, hsorted, rfl⟩ := List.mem_map.mp hrow
    exact ⟨r, hr, (id_of_mem_recordRows hsorted).symm, List.ne_nil_of_mem hsorted⟩
  · rintro ⟨r, hr, rfl, hrows⟩
    obtain ⟨sorted, hsorted⟩ := List.exists_mem_of_ne_nil _ hrows
    rw [← id_of_mem_recordRows hsorted]
    exact List.mem_map_of_mem (mem_searchView.mpr ⟨r, hr, List.mem_map_of_mem hsorted⟩)

/-- Which computers are found depends on nothing but the criteria. -/
theorem finds_congr {view : List TypedRecord} {request other : SearchRequest}
    (h : request.criteria = other.criteria) {id : Int64} : Finds view request id ↔ Finds view other id := by
  simp only [Finds, Ne, recordRows_eq_nil_iff, h]

end InventorySearch
