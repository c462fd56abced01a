import InventorySearch.Proofs.Catalog
import InventorySearch.Proofs.Columns
import InventorySearch.Proofs.Criterion
import InventorySearch.Proofs.FieldId
import InventorySearch.Request.Reading

/-! What is true of every request that is read against a catalog, in whatever modes: its criteria are
well-formed, there are columns, all of them and the sort column are known, and selecting the columns once
more changes nothing. -/

namespace InventorySearch

/-! ### Keys -/

theorem Criterion.WellFormed.contains_key {catalog : Catalog} {c : Criterion} (h : c.WellFormed catalog) :
    catalog.contains c.key = true :=
  Catalog.contains_of_typeOf? h.typeOf?_eq

theorem resolveKey_of_contains {catalog : Catalog} {key : String} (h : catalog.contains key = true) :
    resolveKey catalog key = key := by
  rw [resolveKey, if_pos h]

theorem resolveKey_eq_self_or_contains (catalog : Catalog) (filter : String) :
    resolveKey catalog filter = filter ∨ catalog.contains (resolveKey catalog filter) = true := by
  unfold resolveKey
  split
  · exact Or.inl rfl
  · split
    next key _ =>
      split_ifs with hkey
      · exact Or.inr hkey
      · exact Or.inl rfl
    · exact Or.inl rfl

/-- A filter names the empty key only when it is empty itself. -/
theorem resolveKey_ne_empty {catalog : Catalog} {filter : String} (h : filter ≠ "") :
    resolveKey catalog filter ≠ "" := by
  unfold resolveKey
  split
  · exact h
  · split
    next key hkey =>
      split
      · rintro rfl
        exact h (FieldId.decode_eq_empty hkey)
      · exact h
    · exact h

/-! ### Defaults -/

theorem find?_unknown_eq_none_iff {catalog : Catalog} {columns : List String} :
    (columns.find? fun column => !catalog.contains column) = none ↔
      ∀ column ∈ columns, catalog.contains column = true := by
  simp [List.find?_eq_none]

theorem Defaults.check_eq_ok_iff {catalog : Catalog} {defaults : Defaults} :
    defaults.check catalog = .ok () ↔
      defaults.columns ≠ [] ∧ (∀ column ∈ defaults.columns, catalog.contains column = true) ∧
        catalog.contains defaults.order = true := by
  rw [← find?_unknown_eq_none_iff, check, ← List.isEmpty_eq_false_iff]
  cases defaults.columns.isEmpty with
  | true => simp
  | false =>
      cases (defaults.columns.find? fun column => !catalog.contains column) with
      | some column => simp
      | none => cases catalog.contains defaults.order <;> simp

namespace Params

variable {p : Params} {catalog : Catalog} {defaults : Defaults}

theorem nonEmpty?_eq_some_iff {name value : String} :
    p.nonEmpty? name = some value ↔ p.first? name = some value ∧ value ≠ "" := by
  simp [nonEmpty?, Option.filter_eq_some_iff]

theorem nonEmpty?_of_first? {name value : String} (h : p.first? name = some value) (hvalue : value ≠ "") :
    p.nonEmpty? name = some value :=
  nonEmpty?_eq_some_iff.mpr ⟨h, hvalue⟩

theorem nonEmpty?_of_missing {name : String} (h : p.first? name = none) : p.nonEmpty? name = none := by
  rw [nonEmpty?, h]
  rfl

/-! ### Criteria -/

theorem criterion_eq_ok {names : CriterionParams} {filter : String} {c : Criterion}
    (h : p.criterion catalog names filter = .ok c) :
    c.WellFormed catalog ∧ c.key = resolveKey catalog filter := by
  obtain ⟨operator, _, h⟩ := bind_eq_ok_iff.mp h
  obtain ⟨invert, _, h⟩ := bind_eq_ok_iff.mp h
  obtain ⟨⟨hkey, _⟩, hwell⟩ := Criterion.build_eq_ok_iff.mp h
  exact ⟨hwell, hkey⟩

theorem ne_empty_of_mem_indexedFilters {entry : Nat × String} (h : entry ∈ p.indexedFilters) :
    entry.2 ≠ "" := by
  obtain ⟨n, _, hn⟩ := List.mem_filterMap.mp h
  obtain ⟨filter, hfilter, rfl⟩ := Option.map_eq_some_iff.mp hn
  exact (nonEmpty?_eq_some_iff.mp hfilter).2

theorem wellFormed_of_criteria {criteria : List Criterion} (h : p.criteria catalog = .ok criteria)
    {c : Criterion} (hc : c ∈ criteria) : c.WellFormed catalog ∧ c.key ≠ "" := by
  unfold Params.criteria at h
  split at h
  next filter hfilter =>
    obtain ⟨single, hsingle, h⟩ := bind_eq_ok_iff.mp h
    cases h
    cases List.mem_singleton.mp hc
    obtain ⟨hwell, hkey⟩ := criterion_eq_ok hsingle
    exact ⟨hwell, hkey ▸ resolveKey_ne_empty (nonEmpty?_eq_some_iff.mp hfilter).2⟩
  · obtain ⟨⟨n, filter⟩, hmem, hread⟩ := exists_of_mem_mapM h hc
    obtain ⟨hwell, hkey⟩ := criterion_eq_ok hread
    exact ⟨hwell, hkey ▸ resolveKey_ne_empty (ne_empty_of_mem_indexedFilters hmem)⟩

/-! ### Presentation -/

theorem known_of_knownColumns {mode : Mode} {columns known : List String}
    (h : knownColumns catalog mode columns = .ok known) : ∀ column ∈ known, catalog.contains column = true := by
  unfold knownColumns at h
  split at h
  · cases h
  · cases h
    exact fun column hcolumn => (List.mem_filter.mp hcolumn).2

/-- The chosen columns are known, and there is one. -/
theorem known_of_baseColumns (hdefaults : defaults.check catalog = .ok ()) {mode : Mode} {base : List String}
    (h : p.baseColumns catalog defaults mode = .ok base) :
    base ≠ [] ∧ ∀ column ∈ base, catalog.contains column = true := by
  obtain ⟨hsome, hknown, _⟩ := Defaults.check_eq_ok_iff.mp hdefaults
  unfold baseColumns at h
  split at h
  · cases h
    exact ⟨hsome, hknown⟩
  · obtain ⟨columns, hcolumns, h⟩ := bind_eq_ok_iff.mp h
    cases hlist : withoutRepeats columns with
    | nil =>
        rw [hlist] at h
        cases mode <;> cases h
        exact ⟨hsome, hknown⟩
    | cons first rest =>
        rw [hlist] at h
        cases h
        refine ⟨List.cons_ne_nil _ _, fun column hcolumn => known_of_knownColumns hcolumns column ?_⟩
        rwa [← hlist, withoutRepeats_eq, List.mem_eraseDups] at hcolumn

theorem known_of_order (hdefaults : defaults.check catalog = .ok ()) {mode : Mode} {order : String}
    (h : p.order catalog defaults mode = .ok order) : catalog.contains order = true := by
  obtain ⟨_, _, hknown⟩ := Defaults.check_eq_ok_iff.mp hdefaults
  unfold Params.order at h
  split at h
  · cases h
    exact hknown
  · split at h
    next hcontains =>
      cases h
      exact hcontains
    · split at h <;> cases h
      exact hknown

end Params

/-! ### Requests -/

/-- What is true of every request that is read against a catalog. -/
structure SearchRequest.WellFormed (catalog : Catalog) (r : SearchRequest) : Prop where
  criteria : ∀ c ∈ r.criteria, c.WellFormed catalog ∧ c.key ≠ ""
  columns_ne_nil : r.columns ≠ []
  columns_known : ∀ column ∈ r.columns, catalog.contains column = true
  columns_selected : selectColumns r.columns r.criteria = r.columns
  order_known : catalog.contains r.order = true

/-- The parts that a request is read in. -/
theorem Params.request_eq_ok_iff {p : Params} {catalog : Catalog} {defaults : Defaults} {modes : Modes}
    {r : SearchRequest} :
    p.request catalog defaults modes = .ok r ↔
      p.criteria catalog = .ok r.criteria ∧
        (∃ base, p.baseColumns catalog defaults modes.columns = .ok base ∧
          r.columns = selectColumns base r.criteria) ∧
        p.order catalog defaults modes.order = .ok r.order ∧
        p.direction defaults modes.order = .ok r.direction ∧
        p.detailTab defaults modes.detailTab = .ok r.detailTab ∧
        r.distinct = p.contains "distinct" ∧ r.customSearch = p.contains "customSearch" := by
  unfold Params.request
  simp only [bind_eq_ok_iff]
  constructor
  · rintro ⟨criteria, hcriteria, base, hbase, order, horder, direction, hdirection, tab, htab, h⟩
    cases h
    exact ⟨hcriteria, ⟨base, hbase, rfl⟩, horder, hdirection, htab, rfl, rfl⟩
  · rintro ⟨hcriteria, ⟨base, hbase, hcolumns⟩, horder, hdirection, htab, hdistinct, hcustom⟩
    refine ⟨_, hcriteria, base, hbase, _, horder, _, hdirection, _, htab, ?_⟩
    rw [← hcolumns, ← hdistinct, ← hcustom]
    rfl

/-- Where nothing is said about the presentation, it is that of the defaults. -/
theorem Params.request_of_missing {p : Params} {catalog : Catalog} {criteria : List Criterion}
    (hcriteria : p.criteria catalog = .ok criteria)
    (hmissing : ∀ name ∈ ["columns", "order", "direction", "jumpto", "distinct", "customSearch"],
      p.first? name = none)
    (defaults : Defaults) (modes : Modes) :
    p.request catalog defaults modes = .ok
      { criteria := criteria, columns := selectColumns defaults.columns criteria, order := defaults.order,
        direction := defaults.direction, distinct := false, customSearch := false,
        detailTab := defaults.detailTab } := by
  simp only [List.forall_mem_cons, List.not_mem_nil, false_imp_iff, implies_true, and_true] at hmissing
  obtain ⟨hcolumns, horder, hdirection, htab, hdistinct, hcustom⟩ := hmissing
  refine request_eq_ok_iff.mpr ⟨hcriteria, ⟨defaults.columns, ?columns, rfl⟩, ?order, ?direction, ?detailTab,
    ?distinct, ?customSearch⟩
  case columns => rw [baseColumns, nonEmpty?_of_missing hcolumns]
  case order => rw [Params.order, nonEmpty?_of_missing horder]
  case direction => rw [Params.direction, choice, nonEmpty?_of_missing hdirection]
  case detailTab => rw [Params.detailTab, choice, nonEmpty?_of_missing htab]
  case distinct => rw [contains, hdistinct, Option.isSome_none]
  case customSearch => rw [contains, hcustom, Option.isSome_none]

theorem SearchRequest.wellFormed_of_request {p : Params} {catalog : Catalog} {defaults : Defaults}
    {modes : Modes} {r : SearchRequest} (hdefaults : defaults.check catalog = .ok ())
    (h : p.request catalog defaults modes = .ok r) : r.WellFormed catalog := by
  obtain ⟨hcriteria, ⟨base, hbase, hcolumns⟩, horder, _⟩ := Params.request_eq_ok_iff.mp h
  obtain ⟨hsome, hknown⟩ := Params.known_of_baseColumns hdefaults hbase
  have hwell : ∀ c ∈ r.criteria, c.WellFormed catalog ∧ c.key ≠ "" :=
    fun c hc => Params.wellFormed_of_criteria hcriteria hc
  constructor
  case criteria => exact hwell
  case columns_ne_nil =>
    obtain ⟨column, hcolumn⟩ := List.exists_mem_of_ne_nil base hsome
    exact List.ne_nil_of_mem (hcolumns ▸ mem_selectColumns.mpr (Or.inl hcolumn))
  case columns_known =>
    intro column hcolumn
    rw [hcolumns] at hcolumn
    rcases mem_selectColumns.mp hcolumn with hbase | hrevealed
    · exact hknown column hbase
    · obtain ⟨c, hc, rfl⟩ := List.mem_map.mp hrevealed
      exact (hwell c (List.mem_filter.mp hc).1).1.contains_key
  case columns_selected => rw [hcolumns, selectColumns_selectColumns]
  case order_known => exact Params.known_of_order hdefaults horder

namespace SearchRequest.WellFormed

variable {catalog : Catalog} {r : SearchRequest}

theorem nodup_columns (h : r.WellFormed catalog) : r.columns.Nodup :=
  h.columns_selected ▸ nodup_selectColumns r.columns r.criteria

/-- The keys of criteria that give cause to show their columns are among the columns. -/
theorem key_mem_columns (h : r.WellFormed catalog) {c : Criterion} (hc : c ∈ r.criteria)
    (hreveals : c.operator ≠ .eq ∨ c.invert = true) : c.key ∈ r.columns := by
  have hrevealed : c ∈ r.criteria.filter Criterion.revealsColumn :=
    List.mem_filter.mpr ⟨hc, by simpa [Criterion.revealsColumn] using hreveals⟩
  rw [← h.columns_selected]
  exact mem_selectColumns.mpr (Or.inr (List.mem_map_of_mem hrevealed))

end SearchRequest.WellFormed

/-- Whatever is submitted, a request that is read is one that the catalog supports in all its parts, and it
shows what its criteria give cause to show. -/
theorem SearchRequest.supported_of_request {p : Params} {catalog : Catalog} {defaults : Defaults}
    {modes : Modes} {r : SearchRequest} (hdefaults : defaults.check catalog = .ok ())
    (h : p.request catalog defaults modes = .ok r) :
    (∀ c ∈ r.criteria, catalog.contains c.key = true ∧ ∃ t, catalog.typeOf? c.key = some t ∧
        c.operator.allowedFor t = true ∧ ∀ param, TypedValue.parse t c.raw param = .ok c.value) ∧
      (r.columns ≠ [] ∧ r.columns.Nodup ∧ ∀ column ∈ r.columns, catalog.contains column = true) ∧
      (∀ c ∈ r.criteria, c.operator ≠ .eq ∨ c.invert = true → c.key ∈ r.columns) ∧
      catalog.contains r.order = true := by
  have hwell := wellFormed_of_request hdefaults h
  refine ⟨fun c hc => ?_, ⟨hwell.columns_ne_nil, hwell.nodup_columns, hwell.columns_known⟩,
    fun c hc => hwell.key_mem_columns hc, hwell.order_known⟩
  obtain ⟨hcriterion, _⟩ := hwell.criteria c hc
  refine ⟨hcriterion.contains_key, ?_⟩
  obtain ⟨t, ht, hallowed, hread⟩ := hcriterion
  exact ⟨t, ht, hallowed, fun param => TypedValue.parse_eq_ok_iff.mpr hread⟩

/-- Defaults that list a column twice. -/
def repeatedDefaults : Defaults := ⟨["Name", "Name", "UserName"], "Name", .asc, .general⟩

/-- A filter that is given by the field id of its key. -/
def filterById : Params := ⟨[("filter", FieldId.encode "OsName"), ("operator", "ne"), ("search", "Linux")]⟩

theorem filterById_supported :
    ∃ r, repeatedDefaults.check .builtin = .ok () ∧ filterById.request .builtin repeatedDefaults .strict = .ok r ∧
      (r.criteria.map (·.key) = ["OsName"] ∧ r.columns = ["Name", "UserName", "OsName"]) ∧
      r.columns.Nodup ∧ (∀ column ∈ r.columns, Catalog.builtin.contains column = true) ∧
      (∀ c ∈ r.criteria, c.key ∈ r.columns) := by
  have hdefaults : repeatedDefaults.check .builtin = .ok () := by decide +kernel
  have hrequest : filterById.request .builtin repeatedDefaults .strict = .ok
      { criteria := [⟨"OsName", .ne, "Linux", .text "Linux", false⟩], columns := ["Name", "UserName", "OsName"],
        order := "Name", direction := .asc, distinct := false, customSearch := false, detailTab := .general } := by
    decide +kernel
  obtain ⟨_, ⟨_, hnodup, hknown⟩, hshown, _⟩ := SearchRequest.supported_of_request hdefaults hrequest
  refine ⟨_, hdefaults, hrequest, ⟨rfl, rfl⟩, hnodup, hknown, fun c hc => hshown c hc (Or.inl ?_)⟩
  cases List.mem_singleton.mp hc
  decide

end InventorySearch
