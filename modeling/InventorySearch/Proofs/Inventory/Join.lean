import InventorySearch.Inventory.Search
import InventorySearch.Proofs.Columns
import InventorySearch.Proofs.Value
import Mathlib.Data.List.Basic
import Mathlib.Data.List.Forall2

/-! What applying the criteria of a search to one record in their order comes to. An inverted criterion
lets the record through or stops it, whatever stands before it. A key that is joined keeps those of its
values that satisfy the first criterion on it and that each later one admits, and a record of which some
joined key keeps no value gives no row. -/

namespace InventorySearch

/-- The keys that criteria join, in the order in which they first come. -/
def joinedKeys (criteria : List Criterion) : List String :=
  ((criteria.filter fun c => !c.invert).map (·.key)).eraseDups

/-- The criteria that join a key, in their order. -/
def joiningOn (key : String) (criteria : List Criterion) : List Criterion :=
  criteria.filter fun c => !c.invert && c.key == key

namespace TypedRecord

variable (r : TypedRecord)

/-- Tells whether an inverted criterion stops a record: some value satisfies its operator. -/
def excluded (criteria : List Criterion) : Bool :=
  criteria.any fun c => c.invert && (r.values c.key).any c.operatorMatches

/-- Tells whether a value is the same as some stored value that satisfies a criterion. -/
def admits (c : Criterion) (v : TypedValue) : Bool :=
  (r.values c.key).any fun stored => c.operatorMatches stored && stored.same v

/-- Tells whether a value of a key is kept by the criteria that join the key. The first one decides by
its operator, the others by what they admit. -/
def keeps (v : TypedValue) : List Criterion → Bool
  | [] => true
  | c :: later => c.operatorMatches v && later.all fun c => r.admits c v

/-- The values of a key that the criteria leave. -/
def remaining (criteria : List Criterion) (key : String) : List TypedValue :=
  (r.values key).filter fun v => r.keeps v (joiningOn key criteria)

/-- The joined keys with the values that the criteria leave. -/
def joinedValues (criteria : List Criterion) : Joined :=
  (joinedKeys criteria).map fun key => (key, r.remaining criteria key)

/-- Tells whether criteria leave a record without a row. -/
def stopped (criteria : List Criterion) : Bool :=
  r.excluded criteria || (r.joinedValues criteria).any fun entry => entry.2.isEmpty

end TypedRecord

/-! ### Joined keys -/

theorem mem_joinedKeys {criteria : List Criterion} {key : String} :
    key ∈ joinedKeys criteria ↔ ∃ c ∈ criteria, c.invert = false ∧ c.key = key := by
  simp [joinedKeys, List.mem_eraseDups, and_assoc]

theorem nodup_joinedKeys (criteria : List Criterion) : (joinedKeys criteria).Nodup :=
  nodup_eraseDups _

theorem joinedKeys_concat (criteria : List Criterion) (c : Criterion) :
    joinedKeys (criteria ++ [c]) =
      if c.invert ∨ c.key ∈ joinedKeys criteria then joinedKeys criteria
      else joinedKeys criteria ++ [c.key] := by
  cases hinvert : c.invert with
  | true => simp [joinedKeys, hinvert]
  | false =>
      simp only [joinedKeys, List.filter_append, List.map_append, List.filter_cons, hinvert, Bool.not_false,
        List.filter_nil, List.map_cons, List.map_nil, if_true, eraseDups_concat, Bool.false_eq_true, false_or,
        List.mem_eraseDups]

theorem joiningOn_concat (key : String) (criteria : List Criterion) (c : Criterion) :
    joiningOn key (criteria ++ [c]) =
      if c.invert = false ∧ c.key = key then joiningOn key criteria ++ [c] else joiningOn key criteria := by
  by_cases hjoins : c.invert = false ∧ c.key = key
  · simp [joiningOn, hjoins]
  · have hnot : (!c.invert && c.key == key) = false := by simpa using hjoins
    simp [joiningOn, hjoins, hnot]

theorem joiningOn_eq_nil_iff {key : String} {criteria : List Criterion} :
    joiningOn key criteria = [] ↔ key ∉ joinedKeys criteria := by
  simp [joiningOn, mem_joinedKeys, List.filter_eq_nil_iff]

/-! ### One criterion -/

namespace Joined

theorem narrow_of_not_mem {keys : List String} {key : String} (hkey : key ∉ keys)
    (values : String → List TypedValue) (matching : List TypedValue) :
    narrow key matching (keys.map fun k => (k, values k)) =
      if matching.isEmpty then none else some (keys.map (fun k => (k, values k)) ++ [(key, matching)]) := by
  induction keys with
  | nil => rfl
  | cons k keys ih =>
      obtain ⟨hne, hrest⟩ := List.ne_and_not_mem_of_not_mem_cons hkey
      rw [List.map_cons, narrow, if_neg (Ne.symm hne), ih hrest]
      cases matching.isEmpty <;> rfl

theorem narrow_of_mem {keys : List String} {key : String} (hnodup : keys.Nodup) (hkey : key ∈ keys)
    (values : String → List TypedValue) (matching : List TypedValue) :
    narrow key matching (keys.map fun k => (k, values k)) =
      let kept := (values key).filter fun v => matching.any fun m => m.same v
      if kept.isEmpty then none else some (keys.map fun k => (k, if k = key then kept else values k)) := by
  induction keys with
  | nil => cases hkey
  | cons k keys ih =>
      obtain ⟨hnot, hnodup⟩ := List.nodup_cons.mp hnodup
      rw [List.map_cons, narrow]
      by_cases heq : k = key
      · subst heq
        have hrest : (keys.map fun k' => (k', values k')) = keys.map fun k' =>
            (k', if k' = k then (values k).filter (fun v => matching.any fun m => m.same v) else values k') :=
          List.map_congr_left fun k' hk' => by rw [if_neg fun h : k' = k => hnot (h ▸ hk')]
        simp only [if_true, List.map_cons, hrest]
      · rw [if_neg heq, ih hnodup ((List.mem_cons.mp hkey).resolve_left (Ne.symm heq))]
        simp only [List.map_cons, if_neg heq]
        split <;> rfl

end Joined

namespace TypedRecord

variable (r : TypedRecord) (criteria : List Criterion) (c : Criterion)

theorem excluded_concat :
    r.excluded (criteria ++ [c]) =
      (r.excluded criteria || (c.invert && (r.values c.key).any c.operatorMatches)) := by
  simp [excluded]

theorem remaining_concat_of_not_joins {key : String} (h : ¬(c.invert = false ∧ c.key = key)) :
    r.remaining (criteria ++ [c]) key = r.remaining criteria key := by
  simp only [remaining, joiningOn_concat, if_neg h]

/-- The first criterion on a key leaves the values that satisfy its operator. -/
theorem remaining_concat_of_not_mem (hinvert : c.invert = false) (hkey : c.key ∉ joinedKeys criteria) :
    r.remaining (criteria ++ [c]) c.key = (r.values c.key).filter c.operatorMatches := by
  simp [remaining, joiningOn_concat, hinvert, joiningOn_eq_nil_iff.mpr hkey, keeps]

/-- A later criterion on a key leaves those of the remaining values that it admits. -/
theorem remaining_concat_of_mem (hinvert : c.invert = false) (hkey : c.key ∈ joinedKeys criteria) :
    r.remaining (criteria ++ [c]) c.key = (r.remaining criteria c.key).filter (r.admits c) := by
  rw [remaining, joiningOn_concat, if_pos ⟨hinvert, rfl⟩, remaining, List.filter_filter]
  apply List.filter_congr
  intro v _
  cases hjoining : joiningOn c.key criteria with
  | nil => exact absurd hkey (joiningOn_eq_nil_iff.mp hjoining)
  | cons first later =>
      simp only [List.cons_append, keeps, List.all_append, List.all_cons, List.all_nil, Bool.and_true]
      rw [← Bool.and_assoc, Bool.and_comm]

theorem joinedValues_concat_of_invert (hinvert : c.invert = true) :
    r.joinedValues (criteria ++ [c]) = r.joinedValues criteria := by
  rw [joinedValues, joinedKeys_concat, if_pos (Or.inl hinvert)]
  exact List.map_congr_left fun key _ => by
    rw [remaining_concat_of_not_joins r criteria c fun h => by simp [hinvert] at h]

theorem joinedValues_concat_of_not_mem (hinvert : c.invert = false) (hkey : c.key ∉ joinedKeys criteria) :
    r.joinedValues (criteria ++ [c]) =
      r.joinedValues criteria ++ [(c.key, (r.values c.key).filter c.operatorMatches)] := by
  rw [joinedValues, joinedKeys_concat, if_neg (by simp [hinvert, hkey]), List.map_append, List.map_singleton,
    remaining_concat_of_not_mem r criteria c hinvert hkey]
  congr 1
  refine List.map_congr_left fun key hmem => ?_
  have hne : c.key ≠ key := fun h => hkey (h ▸ hmem)
  rw [remaining_concat_of_not_joins r criteria c fun h => hne h.2]

theorem joinedValues_concat_of_mem (hinvert : c.invert = false) (hkey : c.key ∈ joinedKeys criteria) :
    r.joinedValues (criteria ++ [c]) = (joinedKeys criteria).map fun key =>
      (key, if key = c.key then (r.remaining criteria c.key).filter (r.admits c)
        else r.remaining criteria key) := by
  rw [joinedValues, joinedKeys_concat, if_pos (Or.inr hkey)]
  refine List.map_congr_left fun key _ => ?_
  split_ifs with heq
  · rw [heq, remaining_concat_of_mem r criteria c hinvert hkey]
  · rw [remaining_concat_of_not_joins r criteria c fun h => heq h.2.symm]

/-- A later criterion on a key can only empty the values of that key. -/
theorem any_isEmpty_concat_of_mem
    (hvalues : (r.joinedValues criteria).any (fun entry => entry.2.isEmpty) = false)
    (hinvert : c.invert = false) (hkey : c.key ∈ joinedKeys criteria) :
    (r.joinedValues (criteria ++ [c])).any (fun entry => entry.2.isEmpty) =
      ((r.remaining criteria c.key).filter (r.admits c)).isEmpty := by
  rw [joinedValues_concat_of_mem r criteria c hinvert hkey, Bool.eq_iff_iff, List.any_map, List.any_eq_true]
  constructor
  · rintro ⟨key, hmem, hempty⟩
    simp only [Function.comp] at hempty
    split_ifs at hempty with heq
    · exact hempty
    · exact absurd hempty (List.any_eq_false.mp hvalues _ (List.mem_map_of_mem hmem))
  · intro hempty
    exact ⟨c.key, hkey, by simpa using hempty⟩

theorem any_isEmpty_iff :
    (r.joinedValues criteria).any (fun entry => entry.2.isEmpty) = true ↔
      ∃ key ∈ joinedKeys criteria, r.remaining criteria key = [] := by
  simp [joinedValues]

/-- A key without values is left without values. -/
theorem remaining_concat_eq_nil {key : String} (hkey : key ∈ joinedKeys criteria)
    (h : r.remaining criteria key = []) : r.remaining (criteria ++ [c]) key = [] := by
  by_cases hjoins : c.invert = false ∧ c.key = key
  · obtain ⟨hinvert, rfl⟩ := hjoins
    rw [remaining_concat_of_mem r criteria c hinvert hkey, h, List.filter_nil]
  · rw [remaining_concat_of_not_joins r criteria c hjoins, h]

/-- What stops a record goes on to stop it. -/
theorem stopped_concat_of_stopped (h : r.stopped criteria = true) : r.stopped (criteria ++ [c]) = true := by
  rw [stopped, Bool.or_eq_true] at h ⊢
  rcases h with hexcluded | hempty
  · exact Or.inl (by rw [excluded_concat, hexcluded, Bool.true_or])
  · obtain ⟨key, hkey, hnil⟩ := (r.any_isEmpty_iff criteria).mp hempty
    obtain ⟨first, hfirst, hjoins⟩ := mem_joinedKeys.mp hkey
    have hkey' : key ∈ joinedKeys (criteria ++ [c]) :=
      mem_joinedKeys.mpr ⟨first, List.mem_append_left _ hfirst, hjoins⟩
    exact Or.inr ((r.any_isEmpty_iff (criteria ++ [c])).mpr
      ⟨key, hkey', remaining_concat_eq_nil r criteria c hkey hnil⟩)

/-- One criterion takes the joined values of the criteria before it to those that it makes with them. -/
theorem joinCriterion_joinedValues (hpass : r.stopped criteria = false) :
    joinCriterion r (r.joinedValues criteria) c =
      if r.stopped (criteria ++ [c]) then none else some (r.joinedValues (criteria ++ [c])) := by
  obtain ⟨hexcluded, hvalues⟩ := Bool.or_eq_false_iff.mp hpass
  rw [joinCriterion, stopped, excluded_concat, hexcluded, Bool.false_or]
  cases hinvert : c.invert with
  | true =>
      have hempty : ((r.values c.key).filter c.operatorMatches).isEmpty =
          !(r.values c.key).any c.operatorMatches := by
        rw [Bool.eq_iff_iff]
        simp [List.filter_eq_nil_iff]
      rw [joinedValues_concat_of_invert r criteria c hinvert, hvalues, Bool.true_and, Bool.or_false]
      simp only [if_true, hempty]
      cases (r.values c.key).any c.operatorMatches <;> rfl
  | false =>
      rw [Bool.false_and, Bool.false_or]
      by_cases hkey : c.key ∈ joinedKeys criteria
      · have hadmits : (fun v => ((r.values c.key).filter c.operatorMatches).any fun m => m.same v) =
            r.admits c := funext fun v => List.any_filter
        rw [any_isEmpty_concat_of_mem r criteria c hvalues hinvert hkey,
          joinedValues_concat_of_mem r criteria c hinvert hkey]
        simp only [Bool.false_eq_true, if_false]
        rw [joinedValues, Joined.narrow_of_mem (nodup_joinedKeys criteria) hkey]
        simp only [hadmits]
      · rw [joinedValues_concat_of_not_mem r criteria c hinvert hkey, List.any_append, hvalues, Bool.false_or]
        simp only [Bool.false_eq_true, if_false]
        rw [joinedValues, Joined.narrow_of_not_mem hkey]
        simp

/-- The criteria make the joined values, unless they stop the record. -/
theorem joinCriteria_eq :
    joinCriteria r criteria = if r.stopped criteria then none else some (r.joinedValues criteria) := by
  induction criteria using List.reverseRecOn with
  | nil => rfl
  | append_singleton criteria c ih =>
      rw [joinCriteria] at ih ⊢
      rw [List.foldlM_append, ih]
      cases hstopped : r.stopped criteria with
      | true => simp [stopped_concat_of_stopped r criteria c hstopped]
      | false => simpa [hstopped] using joinCriterion_joinedValues r criteria c hstopped

end TypedRecord

/-! ### Rows -/

theorem mem_combinations {joined : Joined} {combination : List (String × TypedValue)} :
    combination ∈ combinations joined ↔
      List.Forall₂ (fun entry chosen => chosen.1 = entry.1 ∧ chosen.2 ∈ entry.2) joined combination := by
  induction joined generalizing combination with
  | nil => simp [combinations]
  | cons entry joined ih =>
      obtain ⟨key, values⟩ := entry
      simp only [combinations, List.mem_flatMap, List.mem_map]
      constructor
      · rintro ⟨v, hv, rest, hrest, rfl⟩
        exact List.Forall₂.cons ⟨rfl, hv⟩ (ih.mp hrest)
      · intro h
        obtain ⟨⟨key', v⟩, rest, ⟨rfl, hv⟩, hrest, rfl⟩ := List.forall₂_cons_left_iff.mp h
        exact ⟨v, hv, rest, ih.mpr hrest, rfl⟩

/-- There is a combination unless some key has no value. -/
theorem combinations_eq_nil_iff {joined : Joined} :
    combinations joined = [] ↔ joined.any (fun entry => entry.2.isEmpty) = true := by
  induction joined with
  | nil => simp [combinations]
  | cons entry joined ih =>
      obtain ⟨key, values⟩ := entry
      rw [combinations, List.any_cons, Bool.or_eq_true, ← ih, List.flatMap_eq_nil_iff]
      cases values with
      | nil => simp
      | cons v values => simpa using fun h _ _ => h

theorem any_isEmpty_firstValues (joined : Joined) :
    (firstValues joined).any (fun entry => entry.2.isEmpty) = joined.any fun entry => entry.2.isEmpty := by
  rw [firstValues, List.any_map]
  congr 1
  funext ⟨key, values⟩
  cases values <;> rfl

/-- The joined values that a request combines. -/
def TypedRecord.combined (r : TypedRecord) (request : SearchRequest) : Joined :=
  if request.distinct then firstValues (r.joinedValues request.criteria) else r.joinedValues request.criteria

/-- Taking first values only leaves a value to a key that has one. -/
theorem TypedRecord.any_isEmpty_combined (r : TypedRecord) (request : SearchRequest) :
    (r.combined request).any (fun entry => entry.2.isEmpty) =
      (r.joinedValues request.criteria).any fun entry => entry.2.isEmpty := by
  unfold combined
  split_ifs
  · exact any_isEmpty_firstValues _
  · rfl

/-- A record gives a row for each combination of its joined values, unless an inverted criterion
excludes it. -/
theorem recordRows_eq (r : TypedRecord) (request : SearchRequest) :
    recordRows r request =
      if r.excluded request.criteria then []
      else (combinations (r.combined request)).map (rowOf r request) := by
  rw [recordRows, r.joinCriteria_eq request.criteria]
  cases hexcluded : r.excluded request.criteria with
  | true => simp [TypedRecord.stopped, hexcluded]
  | false =>
      cases hempty : (r.joinedValues request.criteria).any fun entry => entry.2.isEmpty with
      | true =>
          have hnone : combinations (r.combined request) = [] :=
            combinations_eq_nil_iff.mpr (r.any_isEmpty_combined request ▸ hempty)
          simp [TypedRecord.stopped, hempty, hnone]
      | false => simp [TypedRecord.stopped, hexcluded, hempty, TypedRecord.combined]

/-- Whether a record gives a row depends on nothing but the criteria. -/
theorem recordRows_eq_nil_iff {r : TypedRecord} {request : SearchRequest} :
    recordRows r request = [] ↔ r.stopped request.criteria = true := by
  rw [recordRows_eq, TypedRecord.stopped, Bool.or_eq_true, ← r.any_isEmpty_combined request,
    ← combinations_eq_nil_iff]
  cases r.excluded request.criteria <;> simp

/-- Sorting only puts the rows of the records into another order. -/
theorem searchView_perm (view : List TypedRecord) (request : SearchRequest) :
    (searchView view request).Perm (view.flatMap fun r => (recordRows r request).map (·.row)) := by
  rw [searchView, ← List.map_flatMap]
  exact (List.mergeSort_perm _ _).map _

theorem mem_searchView {view : List TypedRecord} {request : SearchRequest} {row : Row} :
    row ∈ searchView view request ↔ ∃ r ∈ view, row ∈ (recordRows r request).map (·.row) := by
  rw [(searchView_perm view request).mem_iff, List.mem_flatMap]

/-! ### What the rows of a record show -/

namespace TypedRecord

variable {r : TypedRecord} {request : SearchRequest}

/-- The value that a row shows for a joined key is one of those that the criteria leave. -/
theorem lookup_of_mem_combinations {keys : List String} {values : String → List TypedValue}
    {combination : List (String × TypedValue)}
    (h : combination ∈ combinations (keys.map fun key => (key, values key))) {key : String}
    (hkey : key ∈ keys) : ∃ v ∈ values key, combination.lookup key = some v := by
  rw [mem_combinations, List.forall₂_map_left_iff] at h
  induction h with
  | nil => cases hkey
  | @cons first chosen keys combination hfirst _ ih =>
      obtain ⟨name, v⟩ := chosen
      obtain ⟨rfl, hv⟩ := hfirst
      by_cases heq : key = name
      · subst heq
        exact ⟨v, hv, List.lookup_cons_self⟩
      · obtain ⟨w, hw, hlookup⟩ := ih ((List.mem_cons.mp hkey).resolve_left heq)
        have hne : (key == name) = false := by simpa using heq
        exact ⟨w, hw, by rw [List.lookup_cons, hne]; exact hlookup⟩

/-- The values of a joined key that a request combines. -/
def combinedValues (r : TypedRecord) (request : SearchRequest) (key : String) : List TypedValue :=
  if request.distinct then (r.remaining request.criteria key).take 1 else r.remaining request.criteria key

theorem combined_eq_map (r : TypedRecord) (request : SearchRequest) :
    r.combined request = (joinedKeys request.criteria).map fun key => (key, r.combinedValues request key) := by
  unfold combined combinedValues
  cases request.distinct with
  | false => rfl
  | true => simp only [if_true, firstValues, joinedValues, List.map_map, Function.comp_def]

theorem mem_remaining_of_mem_combinedValues {key : String} {v : TypedValue}
    (h : v ∈ r.combinedValues request key) : v ∈ r.remaining request.criteria key := by
  unfold combinedValues at h
  split at h
  · exact List.mem_of_mem_take h
  · exact h

variable {combination : List (String × TypedValue)} {column : String}

theorem lookup_rowOf (hcolumn : column ∈ request.columns) :
    (rowOf r request combination).row.values.lookup column = some (columnValue r combination column) := by
  rw [rowOf, List.lookup_graph _ hcolumn]

theorem map_fst_of_mem_combinations {joined : Joined} (h : combination ∈ combinations joined) :
    combination.map (·.1) = joined.map (·.1) := by
  rw [mem_combinations] at h
  induction h with
  | nil => rfl
  | cons hfirst _ ih => rw [List.map_cons, List.map_cons, ih, hfirst.1]

/-- A row takes the value of a joined key from those that are combined. -/
theorem columnValue_of_mem_joinedKeys (h : combination ∈ combinations (r.combined request))
    (hcolumn : column ∈ joinedKeys request.criteria) :
    ∃ v ∈ r.combinedValues request column, columnValue r combination column = some v := by
  rw [combined_eq_map] at h
  obtain ⟨v, hv, hlookup⟩ := lookup_of_mem_combinations h hcolumn
  exact ⟨v, hv, by rw [columnValue, hlookup, Option.some_or]⟩

/-- A row takes the value of any other key from the record, which shows its first one. -/
theorem columnValue_of_not_mem_joinedKeys (h : combination ∈ combinations (r.combined request))
    (hcolumn : column ∉ joinedKeys request.criteria) :
    columnValue r combination column = r.first? column := by
  have hkeys : combination.map (·.1) = joinedKeys request.criteria := by
    rw [map_fst_of_mem_combinations h, combined_eq_map, List.map_map]
    exact List.map_id _
  have hlookup : combination.lookup column = none := by
    refine List.lookup_eq_none_iff.mpr fun entry hentry => bne_iff_ne.mpr fun heq => hcolumn ?_
    rw [heq, ← hkeys]
    exact List.mem_map_of_mem hentry
  rw [columnValue, hlookup, Option.none_or]

/-- The value that a row is sorted by is one that the record has. -/
theorem mem_values_of_mem_recordRows {row : SortedRow} (h : row ∈ recordRows r request) {v : TypedValue}
    (hv : v ∈ row.value) : v ∈ r.values request.order := by
  rw [recordRows_eq] at h
  split_ifs at h
  · cases h
  · obtain ⟨combination, hcombination, rfl⟩ := List.mem_map.mp h
    by_cases horder : request.order ∈ joinedKeys request.criteria
    · obtain ⟨w, hw, hvalue⟩ := columnValue_of_mem_joinedKeys hcombination horder
      cases hvalue.symm.trans hv
      exact List.mem_of_mem_filter (mem_remaining_of_mem_combinedValues hw)
    · exact List.mem_of_mem_head? ((columnValue_of_not_mem_joinedKeys hcombination horder).symm.trans hv)

end TypedRecord

end InventorySearch
