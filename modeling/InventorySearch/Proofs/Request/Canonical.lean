import InventorySearch.Proofs.QueryString
import InventorySearch.Proofs.Request.Pairs
import InventorySearch.Proofs.Request.WellFormed
import InventorySearch.Samples

/-! The canonical query of a request is read back as the request. The numbers of its criteria are scanned
without a gap, its columns are already what the criteria make of them, and every code, key and text comes
back from the query string as it was written. -/

namespace InventorySearch

/-! ### Codes and flags -/

/-- Every code of a list is a text, and it picks what it is the code of. -/
def Choice.Readable (α : Type) [Choice α] : Prop := ∀ a : α, code a ≠ "" ∧ pick (code a) = .ok a

theorem Operator.readable : Choice.Readable Operator := by
  intro operator
  cases operator <;> exact ⟨by decide, rfl⟩

theorem SortDirection.readable : Choice.Readable SortDirection := by
  intro direction
  cases direction <;> exact ⟨by decide, rfl⟩

theorem DetailTab.readable : Choice.Readable DetailTab := by
  intro tab
  cases tab <;> exact ⟨by decide, rfl⟩

theorem readFlag_invert (invert : Bool) (param : String) :
    readFlag (if invert then some "1" else none) param = .ok invert := by
  cases invert <;> rfl

namespace Params

variable {p : Params} {catalog : Catalog}

theorem choice_of_first? {α : Type} [Choice α] (hreadable : Choice.Readable α) {name : String} {a : α}
    (h : p.first? name = some (code a)) (mode : Mode) (unset : α) (reason : CodeError → String) :
    p.choice name mode unset reason = .ok a := by
  obtain ⟨hne, hpick⟩ := hreadable a
  rw [choice, nonEmpty?_of_first? h hne]
  simp only [hpick]

/-! ### Criteria -/

/-- A well-formed criterion is read from parameters that hold its parts. -/
theorem criterion_of_first? {names : CriterionParams} {c : Criterion} (hwell : c.WellFormed catalog)
    (hsearch : p.first? names.search = some c.raw)
    (hoperator : p.first? names.operator = some (code c.operator))
    (hinvert : p.first? names.invert = if c.invert then some "1" else none) :
    p.criterion catalog names c.key = .ok c := by
  have hread : readOperator (p.nonEmpty? names.operator) names.operator = .ok c.operator := by
    obtain ⟨hne, hpick⟩ := Operator.readable c.operator
    rw [nonEmpty?_of_first? hoperator hne, readOperator, hpick]
    rfl
  have hflag : readFlag (p.first? names.invert) names.invert = .ok c.invert := by
    rw [hinvert, readFlag_invert]
  have hbuild : Criterion.build catalog (resolveKey catalog c.key) c.operator ((p.first? names.search).getD "")
      c.invert names = .ok c := by
    rw [hsearch, resolveKey_of_contains hwell.contains_key]
    exact Criterion.build_eq_ok_iff.mpr ⟨⟨rfl, rfl, rfl, rfl⟩, hwell⟩
  exact bind_eq_ok_iff.mpr ⟨_, hread, bind_eq_ok_iff.mpr ⟨_, hflag, hbuild⟩⟩

/-- The scan of the numbers finds the keys of listed criteria and stops behind the last one. -/
theorem takeWhile_filterMap_eq (filter? : Nat → Option String) (criteria : List Criterion) (m limit : Nat)
    (hlimit : criteria.length ≤ limit) (h : ∀ i, filter? (m + i) = criteria[i]?.map (·.key)) :
    ((List.range' m limit).takeWhile fun n => (filter? n).isSome).filterMap
        (fun n => (filter? n).map fun filter => (n, filter)) =
      (criteria.zipIdx m).map fun entry => (entry.2, entry.1.key) := by
  -- The induction is on the criteria, with the first number left open: the scan of the rest starts behind it.
  induction criteria generalizing m limit with
  | nil =>
      cases limit with
      | zero => rfl
      | succ limit =>
          have hnone : filter? m = none := h 0
          simp [List.range'_succ, hnone]
  | cons c criteria ih =>
      cases limit with
      | zero => simp at hlimit
      | succ limit =>
          have hfirst : filter? m = some c.key := h 0
          have hrest : ∀ i, filter? (m + 1 + i) = criteria[i]?.map (·.key) := by
            intro i
            rw [Nat.add_assoc, Nat.add_comm 1 i]
            exact h (i + 1)
          have hlimit : criteria.length ≤ limit := by simpa using hlimit
          simp [List.range'_succ, hfirst, ih (m + 1) limit hlimit hrest]

section Listed

variable {criteria : List Criterion} {more : List (String × String)}

/-- A numbered name is looked up among the criteria when nothing else has a number. -/
theorem first?_numbered (hmore : ∀ pair ∈ more, IsWord pair.1) {word : String} (hword : IsWord word) (i : Nat) :
    first? ⟨SearchRequest.criteriaPairs 1 criteria ++ more⟩ (word ++ toString (1 + i)) =
      criteria[i]?.bind fun c => c.settings.lookup word := by
  have hnone : more.lookup (word ++ toString (1 + i)) = none := by
    rw [List.lookup_eq_none_iff]
    intro pair hpair
    simpa using numbered_ne_word word (hmore pair hpair) (1 + i)
  rw [first?, List.lookup_append, hnone, Option.or_none, SearchRequest.lookup_criteriaPairs hword,
    if_pos (Nat.le_add_right 1 i), Nat.add_sub_cancel_left]

theorem first?_word {word : String} (hword : IsWord word) :
    first? ⟨SearchRequest.criteriaPairs 1 criteria ++ more⟩ word = more.lookup word := by
  rw [first?, List.lookup_append, SearchRequest.lookup_criteriaPairs_of_isWord hword, Option.none_or]

theorem indexedFilters_criteriaPairs (hmore : ∀ pair ∈ more, IsWord pair.1)
    (hkeys : ∀ c ∈ criteria, c.key ≠ "") :
    indexedFilters ⟨SearchRequest.criteriaPairs 1 criteria ++ more⟩ =
      (criteria.zipIdx 1).map fun entry => (entry.2, entry.1.key) := by
  apply takeWhile_filterMap_eq
  · have hlength := SearchRequest.length_le_length_criteriaPairs criteria 1
    rw [List.length_append]
    omega
  · intro i
    have hfirst : first? ⟨SearchRequest.criteriaPairs 1 criteria ++ more⟩ ("filter" ++ toString (1 + i)) =
        criteria[i]?.bind fun c => c.settings.lookup "filter" := first?_numbered hmore (by decide) i
    cases hc : criteria[i]? with
    | none =>
        rw [hc] at hfirst
        exact nonEmpty?_of_missing hfirst
    | some c =>
        rw [hc] at hfirst
        exact nonEmpty?_of_first? hfirst (hkeys c (List.mem_of_getElem? hc))

/-- Well-formed criteria are read back from their numbered parameters, whatever words stand behind them. -/
theorem criteria_criteriaPairs (hmore : ∀ pair ∈ more, IsWord pair.1) (hsingular : more.lookup "filter" = none)
    (hwell : ∀ c ∈ criteria, c.WellFormed catalog ∧ c.key ≠ "") :
    Params.criteria ⟨SearchRequest.criteriaPairs 1 criteria ++ more⟩ catalog = .ok criteria := by
  have hnone : first? ⟨SearchRequest.criteriaPairs 1 criteria ++ more⟩ CriterionParams.singular.filter = none :=
    (first?_word (by decide)).trans hsingular
  rw [Params.criteria, nonEmpty?_of_missing hnone,
    indexedFilters_criteriaPairs hmore fun c hc => (hwell c hc).2]
  simp only
  rw [mapM_eq_ok_iff, List.forall₂_map_left_iff, List.forall₂_iff_get]
  refine ⟨by simp, fun i hi _ => ?_⟩
  have hi : i < criteria.length := by simpa using hi
  have hc : criteria[i]? = some (criteria[i]) := List.getElem?_eq_getElem hi
  simp only [List.get_eq_getElem, List.getElem_zipIdx]
  apply criterion_of_first? (hwell _ (List.getElem_mem hi)).1
  · exact (first?_numbered hmore (by decide) i).trans (by rw [hc]; rfl)
  · exact (first?_numbered hmore (by decide) i).trans (by rw [hc]; rfl)
  · refine (first?_numbered hmore (by decide) i).trans ?_
    rw [hc, Option.bind_some, Criterion.settings]
    cases criteria[i].invert <;> rfl

end Listed

end Params

namespace SearchRequest

/-! ### The presentation -/

/-- The canonical parameters behind those of the criteria. -/
def presentationPairs (r : SearchRequest) : List (String × String) :=
  [("columns", String.intercalate "," r.columns), ("order", r.order),
      ("direction", code r.direction), ("jumpto", code r.detailTab)] ++
    if r.distinct then [("distinct", "")] else []

theorem queryPairs_eq (r : SearchRequest) : r.queryPairs = criteriaPairs 1 r.criteria ++ r.presentationPairs :=
  List.append_assoc _ _ _

theorem isWord_of_mem_presentationPairs {r : SearchRequest} {pair : String × String}
    (h : pair ∈ r.presentationPairs) : IsWord pair.1 := by
  have hwords : ∀ distinct : Bool, ∀ word ∈ ["columns", "order", "direction", "jumpto"] ++
      if distinct then ["distinct"] else [], IsWord word := by decide
  have hnames : r.presentationPairs.map (·.1) = ["columns", "order", "direction", "jumpto"] ++
      if r.distinct then ["distinct"] else [] := by
    unfold presentationPairs
    cases r.distinct <;> rfl
  exact hwords r.distinct _ (hnames ▸ List.mem_map_of_mem h)

/-- The canonical parameters of a request hold its parts. -/
theorem first?_queryPairs (r : SearchRequest) {word : String} (hword : IsWord word) :
    Params.first? ⟨r.queryPairs⟩ word = r.presentationPairs.lookup word := by
  rw [queryPairs_eq, Params.first?_word hword]

/-- The columns of a well-formed request are read back, and each of them once. -/
theorem baseColumns_queryPairs {catalog : Catalog} {r : SearchRequest}
    (hkeys : ∀ key, catalog.contains key = true → Text.IsListItem key) (hwell : r.WellFormed catalog)
    (defaults : Defaults) :
    Params.baseColumns ⟨r.queryPairs⟩ catalog defaults .strict = .ok r.columns := by
  have hlist : Text.commaList (String.intercalate "," r.columns) = r.columns :=
    Text.commaList_intercalate fun column hcolumn => hkeys column (hwell.columns_known column hcolumn)
  have hne : String.intercalate "," r.columns ≠ "" := by
    intro hempty
    rw [hempty] at hlist
    exact hwell.columns_ne_nil hlist.symm
  have hfirst : Params.first? ⟨r.queryPairs⟩ "columns" = some (String.intercalate "," r.columns) :=
    r.first?_queryPairs (by decide)
  have hknown : Params.knownColumns catalog .strict r.columns = .ok r.columns := by
    unfold Params.knownColumns
    rw [find?_unknown_eq_none_iff.mpr hwell.columns_known, List.filter_eq_self.mpr hwell.columns_known]
  have honce : withoutRepeats r.columns = r.columns := by
    rw [withoutRepeats_eq, eraseDups_of_nodup hwell.nodup_columns]
  rw [Params.baseColumns, Params.nonEmpty?_of_first? hfirst hne]
  simp only [hlist, hknown]
  refine bind_eq_ok_iff.mpr ⟨_, rfl, ?_⟩
  rw [honce]
  cases hcolumns : r.columns with
  | nil => exact absurd hcolumns hwell.columns_ne_nil
  | cons column columns => rfl

theorem order_queryPairs {catalog : Catalog} {r : SearchRequest} (hne : r.order ≠ "")
    (hknown : catalog.contains r.order = true) (defaults : Defaults) (mode : Mode) :
    Params.order ⟨r.queryPairs⟩ catalog defaults mode = .ok r.order := by
  have hfirst : Params.first? ⟨r.queryPairs⟩ "order" = some r.order := r.first?_queryPairs (by decide)
  rw [Params.order, Params.nonEmpty?_of_first? hfirst hne]
  simp only [hknown, if_true]

/-- From the canonical parameters of a well-formed request everything but the columns is read as it was, in
every mode, and the columns are selected anew from those that are read. -/
theorem request_queryPairs_of_baseColumns {catalog : Catalog} {r : SearchRequest} (hwell : r.WellFormed catalog)
    (horder : r.order ≠ "") {defaults : Defaults} {modes : Modes} {base : List String}
    (hbase : Params.baseColumns ⟨r.queryPairs⟩ catalog defaults modes.columns = .ok base) :
    Params.request ⟨r.queryPairs⟩ catalog defaults modes =
      .ok { r with columns := selectColumns base r.criteria, customSearch := false } := by
  refine Params.request_eq_ok_iff.mpr ⟨?criteria, ⟨base, hbase, rfl⟩, ?order, ?direction, ?detailTab,
    ?distinct, ?customSearch⟩
  case criteria =>
    rw [queryPairs_eq]
    refine Params.criteria_criteriaPairs (fun _ => isWord_of_mem_presentationPairs) ?_ hwell.criteria
    unfold presentationPairs
    cases r.distinct <;> rfl
  case order => exact order_queryPairs horder hwell.order_known defaults _
  case direction => exact Params.choice_of_first? SortDirection.readable (r.first?_queryPairs (by decide)) _ _ _
  case detailTab => exact Params.choice_of_first? DetailTab.readable (r.first?_queryPairs (by decide)) _ _ _
  case distinct =>
    rw [Params.contains, r.first?_queryPairs (by decide), presentationPairs]
    cases r.distinct <;> rfl
  case customSearch =>
    rw [Params.contains, r.first?_queryPairs (by decide), presentationPairs]
    cases r.distinct <;> rfl

/-- A well-formed request is read from its canonical parameters, but for the mark of the search form. -/
theorem request_queryPairs {catalog : Catalog} {r : SearchRequest}
    (hkeys : ∀ key, catalog.contains key = true → Text.IsListItem key) (hwell : r.WellFormed catalog)
    (defaults : Defaults) :
    Params.request ⟨r.queryPairs⟩ catalog defaults .strict = .ok { r with customSearch := false } := by
  have horder : r.order ≠ "" := (hkeys r.order hwell.order_known).1
  have hbase : Params.baseColumns ⟨r.queryPairs⟩ catalog defaults Modes.strict.columns = .ok r.columns :=
    baseColumns_queryPairs hkeys hwell defaults
  rw [request_queryPairs_of_baseColumns hwell horder hbase, hwell.columns_selected]

/-- Whatever parameters a request was read from, it is read again from its canonical query string. -/
theorem request_decode_encode_queryPairs {catalog : Catalog} {defaults : Defaults} {modes : Modes} {p : Params}
    {r : SearchRequest} (hkeys : ∀ key, catalog.contains key = true → Text.IsListItem key)
    (hdefaults : defaults.check catalog = .ok ()) (h : p.request catalog defaults modes = .ok r) :
    (QueryString.decode (QueryString.encode r.queryPairs)).request catalog defaults .strict =
      .ok { r with customSearch := false } := by
  rw [QueryString.decode_encode]
  exact request_queryPairs hkeys (wellFormed_of_request hdefaults h) defaults

/-- A lenient search that came from the form, with a column that is not known. -/
def formParams : Params where
  pairs :=
    [("filter1", "OsName"), ("search1", "Käse & Co"), ("operator1", "LIKE"), ("invert1", "yes"),
      ("filter2", "CpuClock"), ("search2", " 2400 "), ("operator2", "ge"),
      ("columns", "UserName,,Nothing, Name"), ("distinct", "0"), ("customSearch", "")]

theorem form_request_decode_encode_queryPairs :
    ∃ r, formParams.request Samples.catalog .builtin .lenient = .ok r ∧
      r.columns = ["UserName", "Name", "OsName", "CpuClock"] ∧
      (QueryString.decode (QueryString.encode r.queryPairs)).request Samples.catalog .builtin .strict =
        .ok { r with customSearch := false } := by
  have hkeys : ∀ key, Samples.catalog.contains key = true → Text.IsListItem key := by
    rw [Catalog.forall_contains_iff]
    decide +kernel
  have hdefaults : Defaults.builtin.check Samples.catalog = .ok () := rfl
  have hrequest : ∃ r, formParams.request Samples.catalog .builtin .lenient = .ok r ∧
      r.columns = ["UserName", "Name", "OsName", "CpuClock"] := ⟨_, rfl, rfl⟩
  obtain ⟨r, hr, hcolumns⟩ := hrequest
  exact ⟨r, hr, hcolumns, request_decode_encode_queryPairs hkeys hdefaults hr⟩

end SearchRequest

end InventorySearch
