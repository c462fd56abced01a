import InventorySearch.Proofs.Inventory.Presentation
import InventorySearch.Proofs.Inventory.Sorting
import InventorySearch.Request.Reading
import Mathlib.Data.List.Flatten

/-! Searches for distinct rows. They cut the values of the joined keys down to the first one before these are
combined, which leaves the first row of every record that gives any. The rest are not dropped after sorting:
the row that is left need not be the first of its record in the sorted result. -/

namespace InventorySearch

theorem combinations_firstValues (joined : Joined) :
    combinations (firstValues joined) = (combinations joined).take 1 := by
  induction joined with
  | nil => rfl
  | cons entry joined ih =>
      obtain ⟨key, values⟩ := entry
      rw [firstValues, List.map_cons, ← firstValues, combinations, combinations, ih]
      cases values with
      | nil => rfl
      | cons v values =>
          -- Without a combination of the other keys, no later value leads to one either.
          cases combinations joined <;> simp

/-- A record gives the first of its rows where rows are distinct. -/
theorem recordRows_distinct (r : TypedRecord) (request : SearchRequest) :
    recordRows r { request with distinct := true } =
      (recordRows r { request with distinct := false }).take 1 := by
  rw [recordRows_eq, recordRows_eq]
  split_ifs
  · rfl
  · rw [TypedRecord.combined, if_pos rfl, TypedRecord.combined, if_neg (by simp), combinations_firstValues,
      ← List.map_take]
    rfl

namespace TypedRecord

/-- What a record leads with under a key: the first value that the criteria leave of a joined key, or the
first value that the record has. -/
def leading (r : TypedRecord) (criteria : List Criterion) (key : String) : Option TypedValue :=
  if key ∈ joinedKeys criteria then (r.remaining criteria key).head? else r.first? key

/-- The row of the values that a record leads with. -/
def firstRow (r : TypedRecord) (request : SearchRequest) : Row where
  id := r.id
  values := request.columns.map fun column => (column, r.leading request.criteria column)

variable {r : TypedRecord} {request : SearchRequest}

theorem columnValue_eq_leading (hdistinct : request.distinct = true) {combination : List (String × TypedValue)}
    (h : combination ∈ combinations (r.combined request)) (column : String) :
    columnValue r combination column = r.leading request.criteria column := by
  unfold leading
  split_ifs with hjoined
  · obtain ⟨v, hv, hvalue⟩ := columnValue_of_mem_joinedKeys h hjoined
    rw [combinedValues, if_pos hdistinct] at hv
    rw [hvalue]
    cases hvalues : r.remaining request.criteria column with
    | nil =>
        rw [hvalues] at hv
        cases hv
    | cons first rest =>
        rw [hvalues] at hv
        exact congrArg some (List.mem_singleton.mp hv)
  · exact columnValue_of_not_mem_joinedKeys h hjoined

theorem row_eq_firstRow (hdistinct : request.distinct = true) {row : SortedRow}
    (h : row ∈ recordRows r request) : row.row = r.firstRow request := by
  rw [recordRows_eq] at h
  split_ifs at h
  · cases h
  · obtain ⟨combination, hcombination, rfl⟩ := List.mem_map.mp h
    simp only [rowOf, firstRow, columnValue_eq_leading hdistinct hcombination]

end TypedRecord

/-- Of the rows that a search finds, a search for distinct ones keeps for each record the first that it
gives, in the order that these have among all rows. -/
theorem distinct_search_keeps_first_rows {i : Inventory} (h : i.Arises) (request : SearchRequest) :
    let all := { request with distinct := false }
    let one := { request with distinct := true }
    (i.search one).Sublist (i.search all) ∧
      (i.search one).Perm (i.view.filterMap fun r => ((recordRows r all).map (·.row)).head?) ∧
      ∀ r ∈ i.view, ∀ row ∈ ((recordRows r all).map (·.row)).head?, row = r.firstRow request := by
  intro all one
  obtain ⟨catalog, unknown, hview⟩ := h.exists_typeRecords
  have htake : ∀ r, recordRows r one = (recordRows r all).take 1 := fun r => recordRows_distinct r request
  have hhead : ∀ r, recordRows r one = (recordRows r all).head?.toList := fun r => (htake r).trans List.take_one
  refine ⟨?_, ?_, ?_⟩
  · have hpart : (i.view.flatMap fun r => recordRows r one).Sublist (i.view.flatMap fun r => recordRows r all) :=
      List.Sublist.flatMap_right _ fun r _ => htake r ▸ List.take_sublist _ _
    exact (mergeSort_sublist_of_sortedByOneType (sortedByOneType_of_typeRecords hview all) hpart _).map _
  · simp only [List.filterMap_eq_flatMap_toList, List.head?_map, Option.toList_map, ← hhead]
    exact searchView_perm i.view one
  · intro r _ row hrow
    rw [List.head?_map] at hrow
    obtain ⟨first, hfirst, rfl⟩ := Option.map_eq_some_iff.mp hrow
    have hmem : first ∈ recordRows r one := hhead r ▸ Option.mem_toList.mpr hfirst
    have hrow : first.row = r.firstRow one := TypedRecord.row_eq_firstRow rfl hmem
    exact hrow

/-- A computer with two programs. -/
def officeComputer : InventoryRecord :=
  ⟨1, [("Name", .string "test"), ("Software.Name", .ofTexts ["Office", "Firefox"])]⟩

def officeComputerView : TypedRecord :=
  ⟨1, [("Name", [.text "test"]), ("Software.Name", [.text "Office", .text "Firefox"])]⟩

/-- All programs, sorted by name. -/
def programsByName : SearchRequest where
  criteria := [⟨"Software.Name", .ne, "", .text "", false⟩]
  columns := ["Name", "Software.Name"]
  order := "Software.Name"
  direction := .asc
  distinct := false
  customSearch := false
  detailTab := .general

/-- Of the two rows the one is left that the computer gives first, and which sorting puts last. -/
theorem distinct_programs_keep_last_row :
    let i : Inventory := ⟨[officeComputer], [officeComputerView]⟩
    let row (program : String) : Row :=
      ⟨1, [("Name", some (.text "test")), ("Software.Name", some (.text program))]⟩
    i.Arises ∧ i.search { programsByName with distinct := false } = [row "Firefox", row "Office"] ∧
      i.search { programsByName with distinct := true } = [row "Office"] := by
  intro i row
  have hload : Inventory.load .builtin [officeComputer] = .ok i := rfl
  have hrows : (i.view.flatMap fun r => recordRows r { programsByName with distinct := false }) =
      [⟨some (.text "Office"), row "Office"⟩, ⟨some (.text "Firefox"), row "Firefox"⟩] := by
    decide
  have hfirst : (i.view.filterMap fun r =>
      ((recordRows r { programsByName with distinct := false }).map (·.row)).head?) = [row "Office"] := by
    decide
  have horder : (SortedRow.order .asc ⟨some (.text "Office"), row "Office"⟩
      ⟨some (.text "Firefox"), row "Firefox"⟩).isLE = false := by
    decide
  have harises : i.Arises := .loaded hload
  obtain ⟨_, hperm, _⟩ := distinct_search_keeps_first_rows harises programsByName
  rw [hfirst] at hperm
  refine ⟨harises, ?_, List.perm_singleton.mp hperm⟩
  rw [Inventory.search, searchView, hrows]
  simp [List.mergeSort, programsByName, horder]

/-! ### One row for each computer -/

theorem pairwise_id_recordRows {r : TypedRecord} {request : SearchRequest} (hdistinct : request.distinct = true) :
    (recordRows r request).Pairwise fun x y => x.row.id ≠ y.row.id := by
  have hrows : recordRows r request = (recordRows r { request with distinct := false }).take 1 := by
    rw [← recordRows_distinct, ← hdistinct]
  rw [hrows]
  cases recordRows r { request with distinct := false } <;> simp

theorem forall_id_ne_iff {a b : TypedRecord} {request : SearchRequest} :
    (∀ x ∈ recordRows a request, ∀ y ∈ recordRows b request, x.row.id ≠ y.row.id) ↔
      (a.id = b.id → recordRows a request = [] ∨ recordRows b request = []) := by
  constructor
  · intro hne heq
    by_contra hsome
    obtain ⟨ha, hb⟩ := not_or.mp hsome
    obtain ⟨x, hx⟩ := List.exists_mem_of_ne_nil _ ha
    obtain ⟨y, hy⟩ := List.exists_mem_of_ne_nil _ hb
    refine hne x hx y hy ?_
    rw [id_of_mem_recordRows hx, id_of_mem_recordRows hy, heq]
  · intro hnone x hx y hy heq
    rw [id_of_mem_recordRows hx, id_of_mem_recordRows hy] at heq
    rcases hnone heq with ha | hb
    · rw [ha] at hx
      cases hx
    · rw [hb] at hy
      cases hy

/-- Where rows are distinct, a computer comes again exactly when two records with its id give rows. -/
theorem nodup_map_id_searchView_iff {view : List TypedRecord} {request : SearchRequest}
    (hdistinct : request.distinct = true) :
    ((searchView view request).map (·.id)).Nodup ↔
      view.Pairwise fun a b => a.id = b.id → recordRows a request = [] ∨ recordRows b request = [] := by
  rw [((searchView_perm view request).map _).nodup_iff, List.Nodup, List.pairwise_map, List.pairwise_flatMap]
  simp only [List.pairwise_map, List.forall_mem_map, forall_id_ne_iff]
  exact and_iff_right fun r _ => pairwise_id_recordRows hdistinct

/-- The parameters that ask for nothing but distinct rows. -/
def distinctParams : Params := ⟨[("distinct", "")]⟩

/-- The request for distinct rows of all computers, with the defaults for the rest. -/
def distinctRequest (defaults : Defaults) : SearchRequest where
  criteria := []
  columns := selectColumns defaults.columns []
  order := defaults.order
  direction := defaults.direction
  distinct := true
  customSearch := false
  detailTab := defaults.detailTab

theorem request_distinctParams (catalog : Catalog) (defaults : Defaults) (modes : Modes) :
    distinctParams.request catalog defaults modes = .ok (distinctRequest defaults) :=
  rfl

/-- A search for distinct rows finds a computer once, exactly as long as no two records with its id give a
row. No request finds a computer twice exactly when the loaded records have different ids. -/
theorem distinct_ids_iff {catalog : Catalog} {records : List InventoryRecord} {i : Inventory}
    (hload : Inventory.load catalog records = .ok i) (defaults : Defaults) :
    (∀ request : SearchRequest, request.distinct = true → (((i.search request).map (·.id)).Nodup ↔
      i.view.Pairwise fun a b => a.id = b.id → recordRows a request = [] ∨ recordRows b request = [])) ∧
      ((∀ (p : Params) (modes : Modes) (request : SearchRequest), p.request catalog defaults modes = .ok request →
        request.distinct = true → ((i.search request).map (·.id)).Nodup) ↔ (records.map (·.id)).Nodup) := by
  obtain ⟨view, hview, rfl⟩ := map_eq_ok_iff.mp hload
  have hiff : ∀ request : SearchRequest, request.distinct = true →
      (((searchView view request).map (·.id)).Nodup ↔
        view.Pairwise fun a b => a.id = b.id → recordRows a request = [] ∨ recordRows b request = []) :=
    fun _ hdistinct => nodup_map_id_searchView_iff hdistinct
  refine ⟨hiff, ?_⟩
  rw [← map_id_of_typeRecords hview, List.Nodup, List.pairwise_map]
  constructor
  · intro hall
    have hnodup := hall _ .strict _ (request_distinctParams catalog defaults .strict) rfl
    refine ((hiff _ rfl).mp hnodup).imp fun hnone heq => ?_
    rcases hnone heq with h | h <;> cases h
  · intro hids p modes request _ hdistinct
    exact (hiff request hdistinct).mpr (hids.imp fun hne heq => absurd heq hne)

/-- Two records of one computer. -/
def renamedComputer : List InventoryRecord := [⟨1, [("Name", .string "a")]⟩, ⟨1, [("Name", .string "b")]⟩]

def renamedComputerView : List TypedRecord := [⟨1, [("Name", [.text "a"])]⟩, ⟨1, [("Name", [.text "b"])]⟩]

theorem renamedComputer_found_twice :
    Inventory.load .builtin renamedComputer = .ok ⟨renamedComputer, renamedComputerView⟩ ∧
      distinctParams.request .builtin .builtin .strict = .ok (distinctRequest .builtin) ∧
      (distinctRequest .builtin).distinct = true ∧
      ¬((Inventory.search ⟨renamedComputer, renamedComputerView⟩ (distinctRequest .builtin)).map (·.id)).Nodup := by
  have hload : Inventory.load .builtin renamedComputer = .ok ⟨renamedComputer, renamedComputerView⟩ := rfl
  refine ⟨hload, request_distinctParams .builtin .builtin .strict, rfl, fun hnodup => ?_⟩
  have hapart := ((distinct_ids_iff hload .builtin).1 (distinctRequest .builtin) rfl).mp hnodup
  rcases (List.pairwise_pair.mp hapart) rfl with hnone | hnone <;> cases hnone

end InventorySearch
