import InventorySearch.Proofs.Inventory.Conditions

/-! Records with one value for every key that is asked for. There the join of a search comes to what each criterion
says of that value by itself, inverted or not, and however many criteria there are on a key: the record gives one row
when all of them hold, and none otherwise. -/

namespace InventorySearch

/-- A record has exactly one value for each key that criteria ask for. -/
def TypedRecord.HasSingleValues (r : TypedRecord) (criteria : List Criterion) : Prop :=
  ∀ c ∈ criteria, ∃ v, r.values c.key = [v]

/-- Each criterion holds of the values that a record has for its key. -/
def TypedRecord.Satisfies (r : TypedRecord) (criteria : List Criterion) : Prop :=
  ∀ c ∈ criteria, ∀ v ∈ r.values c.key, c.holds v = true

instance (r : TypedRecord) (criteria : List Criterion) : Decidable (r.Satisfies criteria) :=
  inferInstanceAs (Decidable (∀ c ∈ criteria, ∀ v ∈ r.values c.key, c.holds v = true))

/-- The row of the first values that a record has. -/
def TypedRecord.plainRow (r : TypedRecord) (columns : List String) : Row where
  id := r.id
  values := columns.map fun column => (column, r.first? column)

theorem Criterion.metBy_iff_holds {c : Criterion} {r : TypedRecord} {v : TypedValue} (h : r.values c.key = [v]) :
    c.metBy r = true ↔ c.holds v = true := by
  simp [metBy, h, holds]

namespace TypedRecord

variable {r : TypedRecord} {criteria : List Criterion} {request : SearchRequest}

/-- One value is enough for all criteria on a key, so that each of them may be looked at by itself. -/
theorem meets_iff_satisfies (hsingle : r.HasSingleValues criteria) : r.Meets criteria ↔ r.Satisfies criteria := by
  constructor
  · intro h c hc v hv
    obtain ⟨w, hvalues⟩ := hsingle c hc
    have hmet : r.Meets [c] := h.of_subset (by simpa using hc)
    have hmetBy := ((meets_cons_iff (by simp)).mp hmet).2
    cases List.mem_singleton.mp (hvalues ▸ hv)
    exact (Criterion.metBy_iff_holds hvalues).mp hmetBy
  · intro h
    constructor
    · intro c hc hinvert v hv
      have hholds := h c hc v hv
      rwa [Criterion.holds, hinvert, Bool.bne_true, Bool.not_eq_true'] at hholds
    · intro c hc _
      obtain ⟨v, hvalues⟩ := hsingle c hc
      have hv : v ∈ r.values c.key := hvalues ▸ List.mem_singleton_self v
      refine ⟨v, hv, fun d hd hinvert hkey => ?_⟩
      rw [← hkey] at hv
      have hholds := h d hd v hv
      rw [Criterion.holds, hinvert, Bool.bne_false] at hholds
      exact admits_of_operatorMatches hv hholds

/-! ### The one row -/

theorem exists_combinations_eq_singleton {keys : List String} {values : String → List TypedValue}
    (h : ∀ key ∈ keys, ∃ v, values key = [v]) :
    ∃ combination, combinations (keys.map fun key => (key, values key)) = [combination] := by
  induction keys with
  | nil => exact ⟨[], rfl⟩
  | cons key keys ih =>
      obtain ⟨⟨v, hv⟩, hrest⟩ := List.forall_mem_cons.mp h
      obtain ⟨combination, hcombination⟩ := ih hrest
      exact ⟨(key, v) :: combination, by simp [combinations, hv, hcombination]⟩

theorem combinedValues_eq_singleton {key : String} {v : TypedValue} (hvalues : r.values key = [v])
    (hremaining : r.remaining request.criteria key ≠ []) : r.combinedValues request key = [v] := by
  have hkept : r.remaining request.criteria key = [v] := by
    rw [remaining, hvalues, List.filter_singleton] at hremaining ⊢
    cases hkeeps : r.keeps v (joiningOn key request.criteria) with
    | true => rfl
    | false => simp [hkeeps] at hremaining
  rw [combinedValues, hkept, List.take_one, List.head?_cons, Option.toList_some, ite_self]

theorem recordRows_of_satisfies (hsingle : r.HasSingleValues request.criteria) (h : r.Satisfies request.criteria) :
    recordRows r request = [⟨r.first? request.order, r.plainRow request.columns⟩] := by
  have hmeets := (meets_iff_satisfies hsingle).mpr h
  have hcombined : ∀ key ∈ joinedKeys request.criteria,
      ∃ v, r.values key = [v] ∧ r.combinedValues request key = [v] := by
    intro key hkey
    obtain ⟨c, hc, hinvert, rfl⟩ := mem_joinedKeys.mp hkey
    obtain ⟨v, hvalues⟩ := hsingle c hc
    exact ⟨v, hvalues, combinedValues_eq_singleton hvalues
      ((remaining_ne_nil_iff hkey).mpr (hmeets.joining c hc hinvert))⟩
  obtain ⟨combination, hcombination⟩ : ∃ combination, combinations (r.combined request) = [combination] := by
    rw [combined_eq_map]
    exact exists_combinations_eq_singleton fun key hkey => (hcombined key hkey).imp fun v hv => hv.2
  have hcolumn : ∀ column, columnValue r combination column = r.first? column := by
    intro column
    have hmem : combination ∈ combinations (r.combined request) := hcombination ▸ List.mem_singleton_self combination
    by_cases hkey : column ∈ joinedKeys request.criteria
    · obtain ⟨v, hvalues, hchosen⟩ := hcombined column hkey
      obtain ⟨w, hw, hvalue⟩ := columnValue_of_mem_joinedKeys hmem hkey
      rw [hchosen] at hw
      rw [hvalue, List.mem_singleton.mp hw, first?, hvalues, List.head?_cons]
    · exact columnValue_of_not_mem_joinedKeys hmem hkey
  have hrows : recordRows r request ≠ [] := recordRows_ne_nil_iff.mpr hmeets
  rw [recordRows_eq] at hrows ⊢
  split_ifs at hrows ⊢
  · exact absurd rfl hrows
  · simp only [hcombination, List.map_cons, List.map_nil, rowOf, plainRow, hcolumn]

theorem map_row_recordRows (hsingle : r.HasSingleValues request.criteria) :
    (recordRows r request).map (·.row) =
      if r.Satisfies request.criteria then [r.plainRow request.columns] else [] := by
  split_ifs with h
  · rw [recordRows_of_satisfies hsingle h, List.map_singleton]
  · have hnone : recordRows r request = [] := by
      by_contra hrows
      exact h ((meets_iff_satisfies hsingle).mp (recordRows_ne_nil_iff.mp hrows))
    rw [hnone, List.map_nil]

end TypedRecord

/-- A record adds its own rows to those of the other records. -/
theorem searchView_insert_perm (before after : List TypedRecord) (r : TypedRecord) (request : SearchRequest) :
    (searchView (before ++ r :: after) request).Perm
      ((recordRows r request).map (·.row) ++ searchView (before ++ after) request) := by
  have hrest := searchView_perm (before ++ after) request
  have hall := searchView_perm (before ++ r :: after) request
  rw [List.flatMap_append, List.flatMap_cons] at hall
  rw [List.flatMap_append] at hrest
  calc
    List.Perm _ _ := hall
    List.Perm _ _ := List.perm_append_comm_assoc _ _ _
    List.Perm _ _ := hrest.symm.append_left _

/-- A record with one value for every key that is asked for gives one row when each criterion holds of that value,
the row of what it has, and otherwise none. That row is what it adds to a search. -/
theorem row_when_all_criteria_hold {r : TypedRecord} {request : SearchRequest}
    (hsingle : r.HasSingleValues request.criteria) :
    let rows := if r.Satisfies request.criteria then [r.plainRow request.columns] else []
    (recordRows r request).map (·.row) = rows ∧
      ∀ (i : Inventory) (before after : List TypedRecord), i.view = before ++ r :: after →
        (i.search request).Perm (rows ++ { i with view := before ++ after }.search request) := by
  refine ⟨TypedRecord.map_row_recordRows hsingle, fun i before after hview => ?_⟩
  rw [← TypedRecord.map_row_recordRows hsingle, Inventory.search, hview]
  exact searchView_insert_perm before after r request

/-- A computer with one clock rate and two programs. -/
def clockedComputer : TypedRecord :=
  ⟨2, [("CpuClock", [.integer 3600]), ("OsName", [.text "Linux"]),
    ("Software.Name", [.text "Firefox", .text "Git"])]⟩

/-- Clock rates from 2400 on, but not a given one, on anything but Windows. -/
def clockRequest (otherThan : Int64) : SearchRequest :=
  { requestFor
      [⟨"CpuClock", .ge, "2400", .integer 2400, false⟩, ⟨"OsName", .like, "win", .text "win", true⟩,
        ⟨"CpuClock", .eq, "", .integer otherThan, true⟩, ⟨"CpuClock", .ge, "2400", .integer 2400, false⟩] with
    columns := ["CpuClock", "Software.Name", "Name"] }

/-- Four criteria hold of the computer, three of them of its clock rate, until one of them excludes that rate. -/
theorem clockedComputer_found_once :
    let i : Inventory := ⟨[], [clockedComputer]⟩
    let row : Row :=
      ⟨2, [("CpuClock", some (.integer 3600)), ("Software.Name", some (.text "Firefox")), ("Name", none)]⟩
    (∀ otherThan, clockedComputer.HasSingleValues (clockRequest otherThan).criteria) ∧
      i.search (clockRequest 3000) = [row] ∧ i.search (clockRequest 3600) = [] := by
  intro i row
  have hsingle : ∀ otherThan, clockedComputer.HasSingleValues (clockRequest otherThan).criteria := by
    intro otherThan c hc
    simp only [clockRequest, requestFor, List.mem_cons, List.not_mem_nil, or_false] at hc
    rcases hc with rfl | rfl | rfl | rfl <;> exact ⟨_, rfl⟩
  have hrest : ∀ otherThan, { i with view := [] }.search (clockRequest otherThan) = [] :=
    fun _ => List.perm_nil.mp (searchView_perm [] _)
  have hfound : clockedComputer.Satisfies (clockRequest 3000).criteria := by decide +kernel
  have hexcluded : ¬clockedComputer.Satisfies (clockRequest 3600).criteria := by decide +kernel
  obtain ⟨_, hone⟩ := row_when_all_criteria_hold (hsingle 3000)
  obtain ⟨_, hnone⟩ := row_when_all_criteria_hold (hsingle 3600)
  have hone := hone i [] [] rfl
  have hnone := hnone i [] [] rfl
  rw [if_pos hfound, List.append_nil, hrest] at hone
  rw [if_neg hexcluded, List.append_nil, hrest] at hnone
  exact ⟨hsingle, List.perm_singleton.mp hone, List.perm_nil.mp hnone⟩

end InventorySearch
