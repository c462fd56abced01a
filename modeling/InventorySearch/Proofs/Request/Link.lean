import InventorySearch.Proofs.Request.Canonical

/-! Following the link that a list gives for itself. The link is read leniently, and everything in it comes
back but for the columns: they travel as one comma-separated list, so a column whose key is no item of such a
list is lost on the way and can only come back at the end, where a criterion reveals it. -/

namespace InventorySearch

namespace SearchRequest

variable {catalog : Catalog} {defaults : Defaults}

/-- The chosen columns that are read from the list of the columns. -/
def reread (catalog : Catalog) (r : SearchRequest) : List String :=
  withoutRepeats ((Text.commaList (String.intercalate "," r.columns)).filter catalog.contains)

/-- The columns that a list shows behind its link. -/
def linkColumns (catalog : Catalog) (defaults : Defaults) (r : SearchRequest) : List String :=
  selectColumns (if r.reread catalog = [] then defaults.columns else r.reread catalog) r.criteria

theorem baseColumns_queryPairs_lenient (catalog : Catalog) (defaults : Defaults) (r : SearchRequest) :
    Params.baseColumns ⟨r.queryPairs⟩ catalog defaults .lenient =
      .ok (if r.reread catalog = [] then defaults.columns else r.reread catalog) := by
  have hfirst : Params.first? ⟨r.queryPairs⟩ "columns" = some (String.intercalate "," r.columns) :=
    r.first?_queryPairs (by decide)
  by_cases hempty : String.intercalate "," r.columns = ""
  · have hnone : Params.nonEmpty? ⟨r.queryPairs⟩ "columns" = none := by
      rw [Params.nonEmpty?, hfirst, hempty]
      rfl
    have hreread : r.reread catalog = [] := by
      rw [reread, hempty]
      rfl
    rw [Params.baseColumns, hnone, if_pos hreread]
  · rw [Params.baseColumns, Params.nonEmpty?_of_first? hfirst hempty]
    refine bind_eq_ok_iff.mpr ⟨(Text.commaList (String.intercalate "," r.columns)).filter catalog.contains, rfl, ?_⟩
    rw [← reread]
    cases r.reread catalog <;> rfl

/-- A link is read as the request that it stands for, but for the columns. -/
theorem request_link {r : SearchRequest} (hwell : r.WellFormed catalog) (horder : r.order ≠ "")
    (defaults : Defaults) :
    (QueryString.decode (QueryString.encode r.queryPairs)).request catalog defaults .lenient =
      .ok { r with columns := r.linkColumns catalog defaults, customSearch := false } := by
  rw [QueryString.decode_encode]
  exact request_queryPairs_of_baseColumns hwell horder (baseColumns_queryPairs_lenient catalog defaults r)

/-! ### Columns that come back -/

theorem reread_eq_flatMap (catalog : Catalog) (r : SearchRequest) :
    r.reread catalog = ((r.columns.flatMap Text.commaList).filter catalog.contains).eraseDups := by
  rw [reread, withoutRepeats_eq, Text.commaList_intercalate_eq_flatMap]

/-- Columns that are items of a list come back as they were. -/
theorem linkColumns_eq_of_isListItem {r : SearchRequest} (hwell : r.WellFormed catalog)
    (h : ∀ column ∈ r.columns, Text.IsListItem column) (defaults : Defaults) :
    r.linkColumns catalog defaults = r.columns := by
  have hreread : r.reread catalog = r.columns := by
    rw [reread, Text.commaList_intercalate h, List.filter_eq_self.mpr hwell.columns_known, withoutRepeats_eq,
      eraseDups_of_nodup hwell.nodup_columns]
  rw [linkColumns, hreread, if_neg hwell.columns_ne_nil, hwell.columns_selected]

/-! ### A column that does not -/

/-- Asks that no value of a key is a given one. -/
def without (key raw : String) (value : TypedValue) : Criterion := ⟨key, .eq, raw, value, true⟩

theorem wellFormed_without {key raw : String} {t : ValueType} {value : TypedValue}
    (htype : catalog.typeOf? key = some t) (hread : TypedValue.read t raw = .ok value) :
    (without key raw value).WellFormed catalog := by
  refine ⟨t, htype, ?_, hread⟩
  cases t <;> rfl

theorem exists_read (t : ValueType) : ∃ raw value, TypedValue.read t raw = .ok value := by
  cases t with
  | text => exact ⟨"", _, rfl⟩
  | integer => exact ⟨"0", _, rfl⟩
  | float => exact ⟨"0", _, rfl⟩
  | date => exact ⟨"2000-01-01", _, rfl⟩

/-- A request for the names of computers by two criteria, with the defaults for the rest. -/
def named (defaults : Defaults) (first second : Criterion) : SearchRequest where
  criteria := [first, second]
  columns := selectColumns ["Name"] [first, second]
  order := defaults.order
  direction := defaults.direction
  distinct := false
  customSearch := false
  detailTab := defaults.detailTab

def namedPairs (first second : Criterion) : List (String × String) :=
  criteriaPairs 1 [first, second] ++ [("columns", "Name")]

theorem request_namedPairs {first second : Criterion} (hname : catalog.contains "Name" = true)
    (hfirst : first.WellFormed catalog ∧ first.key ≠ "") (hsecond : second.WellFormed catalog ∧ second.key ≠ "")
    (defaults : Defaults) :
    (QueryString.decode (QueryString.encode (namedPairs first second))).request catalog defaults .lenient =
      .ok (named defaults first second) := by
  rw [QueryString.decode_encode, namedPairs]
  have hwords : ∀ pair ∈ [("columns", "Name")], IsWord pair.1 := by decide
  have hword : ∀ word ∈ ["columns", "order", "direction", "jumpto", "distinct", "customSearch"], IsWord word := by
    decide
  have hsettings : ∀ word ∈ ["columns", "order", "direction", "jumpto", "distinct", "customSearch"],
      Params.first? ⟨criteriaPairs 1 [first, second] ++ [("columns", "Name")]⟩ word =
        [("columns", "Name")].lookup word :=
    fun word hmem => Params.first?_word (hword word hmem)
  have hmissing : ∀ word ∈ ["order", "direction", "jumpto", "distinct", "customSearch"],
      Params.first? ⟨criteriaPairs 1 [first, second] ++ [("columns", "Name")]⟩ word = none := by
    intro word hmem
    rw [hsettings word (List.mem_cons_of_mem _ hmem)]
    revert word
    decide
  refine Params.request_eq_ok_iff.mpr ⟨?criteria, ⟨["Name"], ?columns, rfl⟩, ?order, ?direction, ?detailTab,
    ?distinct, ?customSearch⟩
  case criteria =>
    refine Params.criteria_criteriaPairs hwords rfl ?_
    simpa using ⟨hfirst, hsecond⟩
  case columns =>
    have hlist : Text.commaList "Name" = ["Name"] := by decide
    rw [Params.baseColumns, Params.nonEmpty?_of_first? (hsettings "columns" (by decide)) (by decide)]
    simp only [hlist, Modes.lenient, Params.knownColumns]
    refine bind_eq_ok_iff.mpr ⟨["Name"], ?_, rfl⟩
    simp [hname]
  case order => rw [Params.order, Params.nonEmpty?_of_missing (hmissing "order" (by decide))]; rfl
  case direction => rw [Params.direction, Params.choice, Params.nonEmpty?_of_missing (hmissing _ (by decide))]; rfl
  case detailTab => rw [Params.detailTab, Params.choice, Params.nonEmpty?_of_missing (hmissing _ (by decide))]; rfl
  case distinct => rw [Params.contains, hmissing _ (by decide)]; rfl
  case customSearch => rw [Params.contains, hmissing _ (by decide)]; rfl

/-- A column whose key is no item of a list is lost, and comes back behind the columns that are not. -/
theorem linkColumns_named_ne {first second : Criterion} (hfirst : ¬Text.IsListItem first.key)
    (hsecond : Text.IsListItem second.key) (hknown : catalog.contains second.key = true)
    (hreveals : first.revealsColumn = true ∧ second.revealsColumn = true) (hname : second.key ≠ "Name")
    (defaults : Defaults) :
    (named defaults first second).linkColumns catalog defaults ≠ (named defaults first second).columns := by
  have hrevealed : revealedKeys [first, second] = [first.key] ++ [second.key] := by
    simp [revealedKeys, hreveals]
  have hlisted : Text.IsListItem "Name" := by decide
  have hne : first.key ≠ second.key := fun h => hfirst (h ▸ hsecond)
  have hfirstName : first.key ≠ "Name" := fun h => hfirst (h ▸ hlisted)
  have hcolumns : (named defaults first second).columns = ["Name", first.key] ++ [second.key] := by
    show selectColumns ["Name"] [first, second] = _
    rw [selectColumns_eq, hrevealed]
    exact eraseDups_of_nodup (by simp [hne, Ne.symm hfirstName, Ne.symm hname])
  have hcomes : second.key ∈ (named defaults first second).reread catalog := by
    rw [reread_eq_flatMap, List.mem_eraseDups, List.mem_filter, List.mem_flatMap]
    refine ⟨⟨second.key, by simp [hcolumns], ?_⟩, hknown⟩
    rw [Text.commaList_of_isListItem hsecond]
    exact List.mem_singleton_self _
  have hlost : first.key ∉ (named defaults first second).reread catalog := by
    rw [reread_eq_flatMap, List.mem_eraseDups, List.mem_filter, List.mem_flatMap]
    rintro ⟨⟨_, _, hmem⟩, _⟩
    exact hfirst (Text.isListItem_of_mem_commaList hmem)
  have hlink : (named defaults first second).linkColumns catalog defaults =
      ((named defaults first second).reread catalog).eraseDups ++ [first.key] := by
    rw [linkColumns, if_neg (List.ne_nil_of_mem hcomes), selectColumns_eq]
    show (_ ++ revealedKeys [first, second]).eraseDups = _
    rw [hrevealed, ← List.append_assoc, eraseDups_concat, if_pos (List.mem_append_left _ hcomes), eraseDups_concat,
      if_neg hlost]
  intro h
  have hlast := congrArg List.getLast? h
  rw [hlink, hcolumns, List.getLast?_concat, List.getLast?_concat] at hlast
  exact hne (Option.some.inj hlast)

end SearchRequest

end InventorySearch
