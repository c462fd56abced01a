import InventorySearch.Proofs.Inventory.Join
import InventorySearch.Proofs.Inventory.View
import InventorySearch.Proofs.Request.Canonical

/-! Whether the value that a row shows for a joined key satisfies every criterion on the key. A key that is
filtered once more keeps the values that are the same as a value that satisfies the new criterion. The two
zeros are the same but are not ordered alike, so that rows are sound exactly when no record stores both of
them under one key. -/

namespace InventorySearch

/-- The row shows, in the column of each joined key, a value that satisfies the criterion. -/
def Row.Sound (request : SearchRequest) (row : Row) : Prop :=
  ∀ c ∈ request.criteria, c.invert = false → c.key ∈ request.columns →
    ∃ v, row.values.lookup c.key = some (some v) ∧ c.operatorMatches v = true

namespace TypedRecord

/-- The record stores both zeros under one key; no criterion asks about the empty key. -/
def StoresBothZeros (r : TypedRecord) : Prop :=
  ∃ key, key ≠ "" ∧ .zero true ∈ r.values key ∧ .zero false ∈ r.values key

variable {r : TypedRecord} {request : SearchRequest}

/-! ### Without both zeros -/

/-- What a criterion admits satisfies it, unless both zeros are stored. -/
theorem operatorMatches_of_admits {c : Criterion} {v : TypedValue}
    (hzeros : ¬(.zero true ∈ r.values c.key ∧ .zero false ∈ r.values c.key)) (hv : v ∈ r.values c.key)
    (h : r.admits c v = true) : c.operatorMatches v = true := by
  obtain ⟨stored, hstored, hadmits⟩ := List.any_eq_true.mp h
  obtain ⟨hmatches, hsame⟩ := Bool.and_eq_true_iff.mp hadmits
  rcases TypedValue.same_iff.mp hsame with heq | ⟨negative, rfl, rfl⟩
  · exact heq ▸ hmatches
  · cases negative with
    | true => exact absurd ⟨hstored, hv⟩ hzeros
    | false => exact absurd ⟨hv, hstored⟩ hzeros

theorem operatorMatches_of_mem_remaining {criteria : List Criterion} {c : Criterion} {v : TypedValue}
    (hzeros : ¬(.zero true ∈ r.values c.key ∧ .zero false ∈ r.values c.key)) (hc : c ∈ criteria)
    (hinvert : c.invert = false) (h : v ∈ r.remaining criteria c.key) : c.operatorMatches v = true := by
  obtain ⟨hv, hkeeps⟩ := List.mem_filter.mp h
  have hjoins : c ∈ joiningOn c.key criteria := List.mem_filter.mpr ⟨hc, by simp [hinvert]⟩
  cases hjoining : joiningOn c.key criteria with
  | nil =>
      rw [hjoining] at hjoins
      cases hjoins
  | cons first later =>
      rw [hjoining] at hjoins
      rw [hjoining, keeps, Bool.and_eq_true, List.all_eq_true] at hkeeps
      rcases List.mem_cons.mp hjoins with rfl | hlater
      · exact hkeeps.1
      · exact operatorMatches_of_admits hzeros hv (hkeeps.2 c hlater)

theorem sound_of_mem_recordRows (hkeys : ∀ c ∈ request.criteria, c.key ≠ "") (hzeros : ¬r.StoresBothZeros)
    {row : Row} (h : row ∈ (recordRows r request).map (·.row)) : row.Sound request := by
  intro c hc hinvert hcolumn
  have hnone : ¬(.zero true ∈ r.values c.key ∧ .zero false ∈ r.values c.key) :=
    fun hboth => hzeros ⟨c.key, hkeys c hc, hboth⟩
  obtain ⟨sorted, hsorted, rfl⟩ := List.mem_map.mp h
  rw [recordRows_eq] at hsorted
  split at hsorted
  · cases hsorted
  · obtain ⟨combination, hcombination, rfl⟩ := List.mem_map.mp hsorted
    obtain ⟨v, hv, hvalue⟩ :=
      columnValue_of_mem_joinedKeys hcombination (mem_joinedKeys.mpr ⟨c, hc, hinvert, rfl⟩)
    exact ⟨v, by rw [lookup_rowOf hcolumn, hvalue],
      operatorMatches_of_mem_remaining hnone hc hinvert (mem_remaining_of_mem_combinedValues hv)⟩

end TypedRecord

/-! ### With both zeros -/

def uptoNegativeZero (key : String) : Criterion := ⟨key, .le, "-0.0", .zero true, false⟩

def fromPositiveZero (key : String) : Criterion := ⟨key, .ge, "0.0", .zero false, false⟩

/-- No value satisfies both criteria. -/
def zeroCriteria (key : String) : List Criterion := [uptoNegativeZero key, fromPositiveZero key]

theorem wellFormed_of_mem_zeroCriteria {catalog : Catalog} {key : String}
    (h : catalog.typeOf? key = some .float) {c : Criterion} (hc : c ∈ zeroCriteria key) : c.WellFormed catalog := by
  have hnegative : TypedValue.read .float "-0.0" = .ok (.zero true) := by decide
  have hpositive : TypedValue.read .float "0.0" = .ok (.zero false) := by decide
  simp only [zeroCriteria, List.mem_cons, List.not_mem_nil, or_false] at hc
  rcases hc with rfl | rfl
  · exact ⟨.float, h, rfl, hnegative⟩
  · exact ⟨.float, h, rfl, hpositive⟩

theorem key_of_mem_zeroCriteria {key : String} {c : Criterion} (hc : c ∈ zeroCriteria key) : c.key = key := by
  simp only [zeroCriteria, List.mem_cons, List.not_mem_nil, or_false] at hc
  rcases hc with rfl | rfl <;> rfl

/-- The request that asks for both at once, with the defaults for the rest. -/
def zeroRequest (defaults : Defaults) (key : String) : SearchRequest where
  criteria := zeroCriteria key
  columns := selectColumns defaults.columns (zeroCriteria key)
  order := defaults.order
  direction := defaults.direction
  distinct := false
  customSearch := false
  detailTab := defaults.detailTab

/-- The request can be asked for against every catalog that gives the key numbers. -/
theorem request_zeroCriteria {catalog : Catalog} (defaults : Defaults) {key : String} (hne : key ≠ "")
    (h : catalog.typeOf? key = some .float) :
    Params.request ⟨SearchRequest.criteriaPairs 1 (zeroCriteria key)⟩ catalog defaults .strict =
      .ok (zeroRequest defaults key) := by
  have hwell : ∀ c ∈ zeroCriteria key, c.WellFormed catalog ∧ c.key ≠ "" :=
    fun c hc => ⟨wellFormed_of_mem_zeroCriteria h hc, key_of_mem_zeroCriteria hc ▸ hne⟩
  rw [← List.append_nil (SearchRequest.criteriaPairs 1 (zeroCriteria key))]
  refine Params.request_of_missing (Params.criteria_criteriaPairs (by simp) rfl hwell) ?_ defaults .strict
  have hwords : ∀ name ∈ ["columns", "order", "direction", "jumpto", "distinct", "customSearch"],
      IsWord name := by decide
  exact fun name hname => Params.first?_word (hwords name hname)

theorem joiningOn_zeroCriteria (key : String) : joiningOn key (zeroCriteria key) = zeroCriteria key := by
  simp [joiningOn, zeroCriteria, uptoNegativeZero, fromPositiveZero]

theorem joinedKeys_zeroCriteria (key : String) : joinedKeys (zeroCriteria key) = [key] := by
  simp [joinedKeys, zeroCriteria, uptoNegativeZero, fromPositiveZero, List.eraseDups_cons]

theorem mem_columns_zeroRequest (defaults : Defaults) (key : String) :
    key ∈ (zeroRequest defaults key).columns := by
  refine mem_selectColumns.mpr (Or.inr ?_)
  exact List.mem_map.mpr ⟨uptoNegativeZero key, List.mem_filter.mpr ⟨List.mem_cons_self, rfl⟩, rfl⟩

/-- Negative zero is left because the second criterion admits what is the same as positive zero. -/
theorem TypedRecord.mem_remaining_zeroCriteria {r : TypedRecord} {key : String}
    (hnegative : .zero true ∈ r.values key) (hpositive : .zero false ∈ r.values key) :
    .zero true ∈ r.remaining (zeroCriteria key) key := by
  have hfirst : (uptoNegativeZero key).operatorMatches (.zero true) = true := rfl
  have hadmits : r.admits (fromPositiveZero key) (.zero true) = true :=
    List.any_eq_true.mpr ⟨_, hpositive, rfl⟩
  refine List.mem_filter.mpr ⟨hnegative, ?_⟩
  rw [joiningOn_zeroCriteria, zeroCriteria, keeps, hfirst, List.all_cons, hadmits]
  rfl

/-- A record that stores both zeros gives a row with the negative one, which is not sound. -/
theorem not_sound_of_storesBothZeros {r : TypedRecord} (defaults : Defaults) {key : String}
    (hnegative : .zero true ∈ r.values key) (hpositive : .zero false ∈ r.values key) :
    ∃ row ∈ (recordRows r (zeroRequest defaults key)).map (·.row), ¬row.Sound (zeroRequest defaults key) := by
  have hexcluded : r.excluded (zeroCriteria key) = false := rfl
  have hcombination : [(key, TypedValue.zero true)] ∈ combinations (r.combined (zeroRequest defaults key)) := by
    rw [r.combined_eq_map, mem_combinations]
    show List.Forall₂ _ ((joinedKeys (zeroCriteria key)).map _) _
    rw [joinedKeys_zeroCriteria]
    exact List.Forall₂.cons ⟨rfl, TypedRecord.mem_remaining_zeroCriteria hnegative hpositive⟩ List.Forall₂.nil
  have hshown : (rowOf r (zeroRequest defaults key) [(key, .zero true)]).row.values.lookup key =
      some (some (.zero true)) := by
    rw [TypedRecord.lookup_rowOf (mem_columns_zeroRequest defaults key), columnValue, List.lookup_cons_self,
      Option.some_or]
  have hrow :
      rowOf r (zeroRequest defaults key) [(key, .zero true)] ∈ recordRows r (zeroRequest defaults key) := by
    rw [recordRows_eq]
    exact if_neg (Bool.eq_false_iff.mp hexcluded) ▸ List.mem_map_of_mem hcombination
  have hfails : (fromPositiveZero key).operatorMatches (.zero true) = false := rfl
  refine ⟨_, List.mem_map_of_mem hrow, fun hsound => ?_⟩
  obtain ⟨v, hv, hmatches⟩ := hsound (fromPositiveZero key) (List.mem_cons_of_mem _ List.mem_cons_self) rfl
    (mem_columns_zeroRequest defaults key)
  change (rowOf r (zeroRequest defaults key) [(key, .zero true)]).row.values.lookup key = _ at hv
  rw [hshown] at hv
  cases hv
  rw [hfails] at hmatches
  cases hmatches

/-- Every row of every search is sound exactly when no record stores both zeros under one key. -/
theorem sound_iff_not_storesBothZeros {catalog : Catalog} {records : List InventoryRecord} {i : Inventory}
    (hload : Inventory.load catalog records = .ok i) (defaults : Defaults) :
    (∀ (p : Params) (modes : Modes) (request : SearchRequest), p.request catalog defaults modes = .ok request →
      ∀ row ∈ i.search request, row.Sound request) ↔ ∀ r ∈ i.view, ¬r.StoresBothZeros := by
  obtain ⟨view, hview, rfl⟩ := map_eq_ok_iff.mp hload
  constructor
  · rintro hsound r hr ⟨key, hne, hnegative, hpositive⟩
    have htype : catalog.typeOf? key = some .float := valueType_of_mem_view hview hr hnegative
    obtain ⟨row, hrow, hnot⟩ := not_sound_of_storesBothZeros defaults hnegative hpositive
    exact hnot (hsound _ _ _ (request_zeroCriteria defaults hne htype) row (mem_searchView.mpr ⟨r, hr, hrow⟩))
  · intro hzeros p modes request hrequest row hrow
    obtain ⟨r, hr, hrow⟩ := mem_searchView.mp hrow
    have hcriteria := (Params.request_eq_ok_iff.mp hrequest).1
    exact TypedRecord.sound_of_mem_recordRows (fun c hc => (Params.wellFormed_of_criteria hcriteria hc).2)
      (hzeros r hr) hrow

/-- The built-in filters and a user-defined price. -/
def priceCatalog : Catalog := .extended ⟨[⟨"Price", .float⟩], []⟩

/-- A computer with two prices, which are the two zeros. -/
def twoPrices : InventoryRecord where
  id := 1
  fields :=
    [("Name", .string "a"),
      ("UserDefinedInfo.Price", .array [.number (.double (.zero true)), .number (.double (.zero false))])]

def twoPricesView : TypedRecord where
  id := 1
  fields := [("Name", [.text "a"]), ("UserDefinedInfo.Price", [.zero true, .zero false])]

theorem twoPrices_not_sound :
    Inventory.load priceCatalog [twoPrices] = .ok ⟨[twoPrices], [twoPricesView]⟩ ∧
      ¬∀ (p : Params) (modes : Modes) (request : SearchRequest),
        p.request priceCatalog .builtin modes = .ok request →
          ∀ row ∈ Inventory.search ⟨[twoPrices], [twoPricesView]⟩ request, row.Sound request := by
  have hload : Inventory.load priceCatalog [twoPrices] = .ok ⟨[twoPrices], [twoPricesView]⟩ := rfl
  have hzeros : twoPricesView.StoresBothZeros := ⟨"UserDefinedInfo.Price", by decide, by decide, by decide⟩
  refine ⟨hload, fun hsound => ?_⟩
  exact (sound_iff_not_storesBothZeros hload .builtin).mp hsound twoPricesView List.mem_cons_self hzeros

end InventorySearch
