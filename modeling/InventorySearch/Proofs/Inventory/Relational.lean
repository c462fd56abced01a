import InventorySearch.Proofs.Inventory.Join
import InventorySearch.Proofs.Inventory.View
import InventorySearch.Samples
import Mathlib.Data.List.Monad

/-! A search as a relational query. Its reference only looks at the values that a record stores: the
inverted criteria ask that no value satisfies them, and the others take the cartesian product of the values
that satisfy them. As long as no stored number is negative zero, the rows of a record are those of the
reference, in its order and with its repetitions. -/

namespace InventorySearch

/-- The values of a key that satisfy every criterion on the key that is not inverted. -/
def matchingValues (values : String → List TypedValue) (criteria : List Criterion) (key : String) :
    List TypedValue :=
  (values key).filter fun v => criteria.all fun c => c.invert || c.key != key || c.operatorMatches v

/-- The rows of a record that stores given values under its keys. The product is taken over the joined
keys, and the values of the first key vary slowest. -/
def relationalRows (id : Int64) (values : String → List TypedValue) (request : SearchRequest) : List Row :=
  if ∃ c ∈ request.criteria, c.invert = true ∧ ∃ v ∈ values c.key, c.operatorMatches v = true then []
  else
    let keys := joinedKeys request.criteria
    let choices := keys.mapM fun key => matchingValues values request.criteria key
    choices.map fun chosen =>
      { id := id
        values := request.columns.map fun column =>
          (column, ((keys.zip chosen).lookup column).or (values column).head?) }

namespace TypedRecord

variable {r : TypedRecord} {criteria : List Criterion}

theorem excluded_iff :
    r.excluded criteria = true ↔
      ∃ c ∈ criteria, c.invert = true ∧ ∃ v ∈ r.values c.key, c.operatorMatches v = true := by
  simp [excluded]

/-- A stored value is admitted by the criteria that it satisfies, and by no others unless it is a zero. -/
theorem admits_eq_operatorMatches {key : String} (hzero : .zero true ∉ r.values key) {v : TypedValue}
    (hv : v ∈ r.values key) {c : Criterion} (hkey : c.key = key) : r.admits c v = c.operatorMatches v := by
  subst hkey
  rw [Bool.eq_iff_iff, admits, List.any_eq_true]
  constructor
  · rintro ⟨stored, hstored, hadmits⟩
    obtain ⟨hmatches, hsame⟩ := Bool.and_eq_true_iff.mp hadmits
    have hplain : stored ≠ .zero true ∧ v ≠ .zero true :=
      ⟨fun h => hzero (h ▸ hstored), fun h => hzero (h ▸ hv)⟩
    exact (TypedValue.same_iff_eq hplain.1 hplain.2).mp hsame ▸ hmatches
  · intro hmatches
    exact ⟨v, hv, by rw [hmatches, TypedValue.same_self]; rfl⟩

theorem keeps_eq_all {key : String} (hzero : .zero true ∉ r.values key) {v : TypedValue}
    (hv : v ∈ r.values key) {joining : List Criterion} (hkeys : ∀ c ∈ joining, c.key = key) :
    r.keeps v joining = joining.all fun c => c.operatorMatches v := by
  cases joining with
  | nil => rfl
  | cons first later =>
      have hlater : later.all (fun c => r.admits c v) = later.all fun c => c.operatorMatches v := by
        rw [Bool.eq_iff_iff, List.all_eq_true, List.all_eq_true]
        refine forall₂_congr fun c hc => ?_
        rw [admits_eq_operatorMatches hzero hv (hkeys c (List.mem_cons_of_mem _ hc))]
      rw [keeps, hlater, List.all_cons]

/-- Without negative zero, the criteria leave the values that satisfy all of them. -/
theorem remaining_eq_matchingValues {key : String} (hzero : .zero true ∉ r.values key) :
    r.remaining criteria key = matchingValues r.values criteria key := by
  refine List.filter_congr fun v hv => ?_
  have hkeys : ∀ c ∈ joiningOn key criteria, c.key = key := by
    intro c hc
    have hjoins := (List.mem_filter.mp hc).2
    simp only [Bool.and_eq_true, beq_iff_eq] at hjoins
    exact hjoins.2
  rw [keeps_eq_all hzero hv hkeys, joiningOn, List.all_filter]
  congr 1
  funext c
  cases c.invert <;> by_cases hkey : c.key = key <;> simp [hkey, bne]

end TypedRecord

/-- Combining listed values is the product of the lists, with the keys put to the chosen values. -/
theorem combinations_eq_mapM (keys : List String) (values : String → List TypedValue) :
    combinations (keys.map fun key => (key, values key)) =
      (keys.mapM values).map fun chosen => keys.zip chosen := by
  induction keys with
  | nil => rfl
  | cons key keys ih =>
      have hproduct : (key :: keys).mapM values =
          (values key).flatMap fun v => (keys.mapM values).map (v :: ·) := by
        rw [List.mapM_cons]
        simp only [bind, List.pure_def, List.map_eq_flatMap]
      rw [List.map_cons, combinations, ih, hproduct, List.map_flatMap]
      simp only [List.map_map]
      rfl

theorem recordRows_eq_relationalRows {r : TypedRecord} (hzero : ∀ key, .zero true ∉ r.values key)
    {request : SearchRequest} (hdistinct : request.distinct = false) :
    (recordRows r request).map (·.row) = relationalRows r.id r.values request := by
  have hremaining : r.remaining request.criteria = matchingValues r.values request.criteria :=
    funext fun key => TypedRecord.remaining_eq_matchingValues (hzero key)
  have hcombined : r.combined request = r.joinedValues request.criteria := by
    rw [TypedRecord.combined, hdistinct]
    rfl
  rw [recordRows_eq, hcombined, relationalRows]
  simp only [← TypedRecord.excluded_iff]
  split_ifs
  · rfl
  · rw [TypedRecord.joinedValues, combinations_eq_mapM, hremaining, List.map_map, List.map_map]
    rfl

/-- The rows of a search are, record by record and before they are sorted, those of the relational
reference over the stored values. -/
theorem load_rows_eq_relationalRows {catalog : Catalog} {records : List InventoryRecord} {i : Inventory}
    (hload : Inventory.load catalog records = .ok i)
    (hzero : ∀ record ∈ records, ∀ key, .zero true ∉ record.valuesUnder catalog key)
    (request : SearchRequest) (hdistinct : request.distinct = false) :
    List.Forall₂ (fun record r => (recordRows r request).map (·.row) =
        relationalRows record.id (record.valuesUnder catalog) request) records i.view ∧
      (i.search request).Perm
        (records.flatMap fun record => relationalRows record.id (record.valuesUnder catalog) request) := by
  obtain ⟨view, hview, rfl⟩ := map_eq_ok_iff.mp hload
  have hrows : List.Forall₂ (fun record r => (recordRows r request).map (·.row) =
      relationalRows record.id (record.valuesUnder catalog) request) records view := by
    have htyped := (List.forall₂_and_left _ _).mpr ⟨hzero, mapM_eq_ok_iff.mp hview⟩
    refine htyped.imp fun record r ⟨hzero, hrecord⟩ => ?_
    have hvalues : r.values = record.valuesUnder catalog := funext (values_of_typeRecord hrecord)
    rw [← id_of_typeRecord hrecord, ← hvalues]
    exact recordRows_eq_relationalRows (hvalues ▸ hzero) hdistinct
  have hall : view.flatMap (fun r => (recordRows r request).map (·.row)) =
      records.flatMap fun record => relationalRows record.id (record.valuesUnder catalog) request := by
    rw [List.flatMap_def, List.flatMap_def]
    congr 1
    rw [← List.forall₂_eq_eq_eq, List.forall₂_map_left_iff, List.forall₂_map_right_iff]
    exact hrows.flip
  exact ⟨hrows, hall ▸ searchView_perm view request⟩

/-- Computers that do not run Linux with their software but for one edition, twice filtered. -/
def softwareRequest : SearchRequest where
  criteria :=
    [⟨"Software.Name", .ne, "Office 2021", .text "Office 2021", false⟩,
      ⟨"OsName", .eq, "Linux", .text "Linux", true⟩, ⟨"Software.Name", .ne, "Git", .text "Git", false⟩]
  columns := ["Name", "Software.Name"]
  order := "Name"
  direction := .asc
  distinct := false
  customSearch := false
  detailTab := .general

theorem sample_rows_eq_relationalRows :
    Inventory.load Samples.catalog Samples.records = .ok Samples.inventory ∧
      (∀ record ∈ Samples.records, ∀ key, .zero true ∉ record.valuesUnder Samples.catalog key) ∧
      softwareRequest.distinct = false ∧
      (Samples.inventory.search softwareRequest).Perm
        [⟨1, [("Name", some (.text "test")), ("Software.Name", some (.text "Office 2019"))]⟩,
          ⟨1, [("Name", some (.text "test")), ("Software.Name", some (.text "Firefox"))]⟩,
          ⟨4, [("Name", some (.text "ws-sales-01")), ("Software.Name", some (.text "Office 2019"))]⟩] := by
  have hload : Inventory.load Samples.catalog Samples.records = .ok Samples.inventory := rfl
  have hzero : ∀ record ∈ Samples.records, ∀ key, .zero true ∉ record.valuesUnder Samples.catalog key := by
    intro record hrecord
    rw [not_mem_valuesUnder_iff]
    revert record
    decide +kernel
  have hrows : Samples.records.flatMap (fun record =>
      relationalRows record.id (record.valuesUnder Samples.catalog) softwareRequest) =
        [⟨1, [("Name", some (.text "test")), ("Software.Name", some (.text "Office 2019"))]⟩,
          ⟨1, [("Name", some (.text "test")), ("Software.Name", some (.text "Firefox"))]⟩,
          ⟨4, [("Name", some (.text "ws-sales-01")), ("Software.Name", some (.text "Office 2019"))]⟩] := by
    decide +kernel
  exact ⟨hload, hzero, rfl, hrows ▸ (load_rows_eq_relationalRows hload hzero softwareRequest rfl).2⟩

end InventorySearch
