import InventorySearch.Proofs.Inventory.Distinct
import InventorySearch.Proofs.Inventory.Soundness
import Mathlib.Logic.Basic

/-! Criteria as conditions on a record. Which values the rows of a record show depends on the order of the
criteria, but whether it gives a row does not, nor on how often a criterion comes. A criterion on a key that
no other one joins shares out the records with its inversion. -/

namespace InventorySearch

namespace TypedRecord

variable {r : TypedRecord} {criteria : List Criterion} {key : String} {v : TypedValue} {c : Criterion}

/-- What criteria ask of a record. No value satisfies an inverted one, and the others that join one key admit
a value of the key together. -/
structure Meets (r : TypedRecord) (criteria : List Criterion) : Prop where
  inverted : ∀ c ∈ criteria, c.invert = true → ∀ v ∈ r.values c.key, c.operatorMatches v = false
  joining : ∀ c ∈ criteria, c.invert = false →
    ∃ v ∈ r.values c.key, ∀ d ∈ criteria, d.invert = false → d.key = c.key → r.admits d v = true

/-! ### Values that are admitted -/

theorem admits_of_operatorMatches (hv : v ∈ r.values c.key) (h : c.operatorMatches v = true) :
    r.admits c v = true :=
  List.any_eq_true.mpr ⟨v, hv, by rw [h, TypedValue.same_self]; rfl⟩

/-- A value is admitted along with every value that is the same. -/
theorem admits_of_same {w : TypedValue} (h : r.admits c v = true) (hsame : v.same w = true) :
    r.admits c w = true := by
  obtain ⟨stored, hstored, hadmits⟩ := List.any_eq_true.mp h
  obtain ⟨hmatches, hv⟩ := Bool.and_eq_true_iff.mp hadmits
  exact List.any_eq_true.mpr ⟨stored, hstored, by rw [hmatches, TypedValue.same_trans hv hsame]; rfl⟩

/-- The first criterion on a key keeps some value that the later ones admit exactly when all of them admit
one: what is admitted is the same as a value that satisfies the first. -/
theorem exists_keeps_iff {later : List Criterion} (hkey : c.key = key) :
    (∃ v ∈ r.values key, r.keeps v (c :: later) = true) ↔
      ∃ v ∈ r.values key, ∀ d ∈ c :: later, r.admits d v = true := by
  subst hkey
  simp only [keeps, Bool.and_eq_true, List.all_eq_true, List.forall_mem_cons]
  constructor
  · rintro ⟨v, hv, hfirst, hlater⟩
    exact ⟨v, hv, admits_of_operatorMatches hv hfirst, hlater⟩
  · rintro ⟨v, _, hfirst, hlater⟩
    -- The value itself need not satisfy the first criterion, but a stored one that is the same does.
    obtain ⟨stored, hstored, hadmits⟩ := List.any_eq_true.mp hfirst
    obtain ⟨hmatches, hsame⟩ := Bool.and_eq_true_iff.mp hadmits
    exact ⟨stored, hstored, hmatches, fun d hd => admits_of_same (hlater d hd) (TypedValue.same_symm hsame)⟩

theorem mem_joiningOn : c ∈ joiningOn key criteria ↔ c ∈ criteria ∧ c.invert = false ∧ c.key = key := by
  simp [joiningOn]

theorem remaining_ne_nil_iff (hkey : key ∈ joinedKeys criteria) :
    r.remaining criteria key ≠ [] ↔
      ∃ v ∈ r.values key, ∀ d ∈ criteria, d.invert = false → d.key = key → r.admits d v = true := by
  have hleft : r.remaining criteria key ≠ [] ↔
      ∃ v ∈ r.values key, r.keeps v (joiningOn key criteria) = true := by
    simp [remaining, List.filter_eq_nil_iff]
  have hjoining : ∀ v, (∀ d ∈ joiningOn key criteria, r.admits d v = true) ↔
      ∀ d ∈ criteria, d.invert = false → d.key = key → r.admits d v = true := by
    intro v
    simp only [mem_joiningOn, and_imp]
  simp only [hleft, ← hjoining]
  cases hlist : joiningOn key criteria with
  | nil => exact absurd hkey (joiningOn_eq_nil_iff.mp hlist)
  | cons first later =>
      have hfirst : first ∈ joiningOn key criteria := hlist ▸ List.mem_cons_self
      exact exists_keeps_iff (mem_joiningOn.mp hfirst).2.2

/-! ### Records that give rows -/

theorem not_stopped_iff : (!r.stopped criteria) = true ↔ r.Meets criteria := by
  have hexcluded : r.excluded criteria = false ↔
      ∀ c ∈ criteria, c.invert = true → ∀ v ∈ r.values c.key, c.operatorMatches v = false := by
    simp [excluded]
  have hempty : ((r.joinedValues criteria).any fun entry => entry.2.isEmpty) = false ↔
      ∀ c ∈ criteria, c.invert = false →
        ∃ v ∈ r.values c.key, ∀ d ∈ criteria, d.invert = false → d.key = c.key → r.admits d v = true := by
    rw [← Bool.not_eq_true, any_isEmpty_iff]
    constructor
    · intro hnone c hc hinvert
      have hkey : c.key ∈ joinedKeys criteria := mem_joinedKeys.mpr ⟨c, hc, hinvert, rfl⟩
      exact (remaining_ne_nil_iff hkey).mp fun hnil => hnone ⟨c.key, hkey, hnil⟩
    · rintro hall ⟨key, hkey, hnil⟩
      obtain ⟨c, hc, hinvert, rfl⟩ := mem_joinedKeys.mp hkey
      exact (remaining_ne_nil_iff hkey).mpr (hall c hc hinvert) hnil
  rw [Bool.not_eq_true', stopped, Bool.or_eq_false_iff, hexcluded, hempty]
  constructor
  · rintro ⟨hinverted, hjoining⟩
    exact ⟨hinverted, hjoining⟩
  · intro h
    exact ⟨h.inverted, h.joining⟩

/-! ### Criteria as a set -/

variable {other : List Criterion}

theorem Meets.of_subset (h : r.Meets other) (hsub : criteria ⊆ other) : r.Meets criteria where
  inverted c hc := h.inverted c (hsub hc)
  joining c hc hinvert := by
    obtain ⟨v, hv, hall⟩ := h.joining c (hsub hc) hinvert
    exact ⟨v, hv, fun d hd => hall d (hsub hd)⟩

theorem meets_congr (h : ∀ c, c ∈ criteria ↔ c ∈ other) : r.Meets criteria ↔ r.Meets other :=
  ⟨fun hmeets => hmeets.of_subset fun c => (h c).mpr, fun hmeets => hmeets.of_subset fun c => (h c).mp⟩

end TypedRecord

/-- The records that criteria do not stop. -/
def Inventory.passing (i : Inventory) (criteria : List Criterion) : List TypedRecord :=
  i.view.filter fun r => !r.stopped criteria

variable {i : Inventory} {criteria : List Criterion} {request : SearchRequest}

theorem Inventory.mem_passing_iff {r : TypedRecord} : r ∈ i.passing criteria ↔ r ∈ i.view ∧ r.Meets criteria := by
  rw [Inventory.passing, List.mem_filter, TypedRecord.not_stopped_iff]

theorem recordRows_ne_nil_iff {r : TypedRecord} : recordRows r request ≠ [] ↔ r.Meets request.criteria := by
  rw [Ne, recordRows_eq_nil_iff, ← TypedRecord.not_stopped_iff, Bool.not_eq_true, Bool.not_eq_true']

/-- A search finds the computers of the records that its criteria do not stop. -/
theorem mem_map_id_search_iff {id : Int64} :
    id ∈ (i.search request).map (·.id) ↔ id ∈ (i.passing request.criteria).map (·.id) := by
  rw [Inventory.search, mem_map_id_searchView_iff, List.mem_map]
  simp only [Finds, Inventory.mem_passing_iff, recordRows_ne_nil_iff]
  refine exists_congr fun r => ?_
  rw [and_assoc, and_comm (a := r.id = id)]

/-- Whatever else is asked for, a record that gives a row for criteria gives one for every part of them, so
that more criteria find fewer computers. Order and repetition do not matter. -/
theorem rows_of_fewer_criteria {fewer more : SearchRequest} (h : fewer.criteria ⊆ more.criteria) :
    (∀ r : TypedRecord, recordRows r more ≠ [] → recordRows r fewer ≠ []) ∧
      (∀ (i : Inventory) (id : Int64), id ∈ (i.search more).map (·.id) → id ∈ (i.search fewer).map (·.id)) ∧
      (more.criteria ⊆ fewer.criteria →
        (∀ r : TypedRecord, recordRows r more ≠ [] ↔ recordRows r fewer ≠ []) ∧
          ∀ (i : Inventory) (id : Int64),
            id ∈ (i.search more).map (·.id) ↔ id ∈ (i.search fewer).map (·.id)) := by
  simp only [recordRows_ne_nil_iff, mem_map_id_search_iff]
  refine ⟨fun r hmeets => hmeets.of_subset h, fun i id => ?_, fun hback => ?_⟩
  · have hpassing : i.passing more.criteria ⊆ i.passing fewer.criteria := by
      intro r hr
      obtain ⟨hview, hmeets⟩ := Inventory.mem_passing_iff.mp hr
      exact Inventory.mem_passing_iff.mpr ⟨hview, hmeets.of_subset h⟩
    exact fun hid => List.map_subset _ hpassing hid
  · have hsame : ∀ r : TypedRecord, r.Meets more.criteria ↔ r.Meets fewer.criteria := fun r =>
      TypedRecord.meets_congr fun c => ⟨fun hc => hback hc, fun hc => h hc⟩
    refine ⟨hsame, fun i id => ?_⟩
    simp only [List.mem_map, Inventory.mem_passing_iff, hsame]

theorem search_of_row {row : SortedRow} (h : (i.view.flatMap fun r => recordRows r request) = [row]) :
    i.search request = [row.row] := by
  rw [Inventory.search, searchView, h, List.mergeSort_singleton, List.map_singleton]

/-- The two zeros asked for the other way round, and once more. -/
def zeroRequestAgain (key : String) : SearchRequest :=
  { zeroRequest .builtin key with
    criteria := [fromPositiveZero key, uptoNegativeZero key, fromPositiveZero key] }

/-- The computer with two prices is found either way, though its rows show different zeros. -/
theorem twoPrices_found_in_any_order :
    let key := "UserDefinedInfo.Price"
    let i : Inventory := ⟨[twoPrices], [twoPricesView]⟩
    let row (negative : Bool) : Row :=
      ⟨1, [("Name", some (.text "a")), ("UserName", none), ("InventoryDate", none),
        (key, some (.zero negative))]⟩
    (zeroRequest .builtin key).criteria ⊆ (zeroRequestAgain key).criteria ∧
      (zeroRequestAgain key).criteria ⊆ (zeroRequest .builtin key).criteria ∧
      i.search (zeroRequest .builtin key) = [row true] ∧ i.search (zeroRequestAgain key) = [row false] ∧
      ∀ id, id ∈ (i.search (zeroRequestAgain key)).map (·.id) ↔
        id ∈ (i.search (zeroRequest .builtin key)).map (·.id) := by
  intro key i row
  have hfewer : (zeroRequest .builtin key).criteria ⊆ (zeroRequestAgain key).criteria := by decide
  have hmore : (zeroRequestAgain key).criteria ⊆ (zeroRequest .builtin key).criteria := by decide
  have hnegative : (i.view.flatMap fun r => recordRows r (zeroRequest .builtin key)) =
      [⟨none, row true⟩] := by decide
  have hpositive : (i.view.flatMap fun r => recordRows r (zeroRequestAgain key)) =
      [⟨none, row false⟩] := by decide
  exact ⟨hfewer, hmore, search_of_row hnegative, search_of_row hpositive,
    ((rows_of_fewer_criteria hfewer).2.2 hmore).2 i⟩

/-! ### A criterion and its inversion -/

namespace Criterion

/-- The criterion that asks for the opposite. -/
def inverted (c : Criterion) : Criterion := { c with invert := !c.invert }

/-- Tells whether a record does what a criterion asks for by itself: some value satisfies the operator, or none
does if the criterion is inverted. -/
def metBy (c : Criterion) (r : TypedRecord) : Bool := (r.values c.key).any c.operatorMatches != c.invert

@[simp]
theorem metBy_inverted (c : Criterion) (r : TypedRecord) : c.inverted.metBy r = !c.metBy r := by
  show ((r.values c.key).any c.operatorMatches != !c.invert) = !((r.values c.key).any c.operatorMatches != c.invert)
  rw [Bool.bne_not]

end Criterion

section Inverted

variable {before after : List Criterion} {c : Criterion}

namespace TypedRecord

variable {r : TypedRecord}

/-- A criterion on a key that no other one joins is met beside the others when it is met by itself. -/
theorem meets_cons_iff (hkey : ∀ d ∈ criteria, d.invert = false → d.key ≠ c.key) :
    r.Meets (c :: criteria) ↔ r.Meets criteria ∧ c.metBy r = true := by
  rw [Criterion.metBy, bne_iff_ne]
  constructor
  · intro h
    refine ⟨h.of_subset (List.subset_cons_self c criteria), ?_⟩
    cases hinvert : c.invert with
    | true =>
        rw [Ne, List.any_eq_true]
        rintro ⟨v, hv, hmatches⟩
        rw [h.inverted c List.mem_cons_self hinvert v hv] at hmatches
        cases hmatches
    | false =>
        obtain ⟨v, _, hall⟩ := h.joining c List.mem_cons_self hinvert
        obtain ⟨stored, hstored, hadmits⟩ := List.any_eq_true.mp (hall c List.mem_cons_self hinvert rfl)
        rw [Bool.ne_false_iff, List.any_eq_true]
        exact ⟨stored, hstored, (Bool.and_eq_true_iff.mp hadmits).1⟩
  · rintro ⟨h, hc⟩
    constructor
    · intro d hd hinvert v hv
      rcases List.mem_cons.mp hd with rfl | hd
      · rw [hinvert, Ne, List.any_eq_true] at hc
        exact Bool.eq_false_iff.mpr fun hmatches => hc ⟨v, hv, hmatches⟩
      · exact h.inverted d hd hinvert v hv
    · intro d hd hinvert
      rcases List.mem_cons.mp hd with rfl | hd
      · rw [hinvert, Bool.ne_false_iff, List.any_eq_true] at hc
        obtain ⟨v, hv, hmatches⟩ := hc
        refine ⟨v, hv, fun e he hjoins heq => ?_⟩
        rcases List.mem_cons.mp he with rfl | he
        · exact admits_of_operatorMatches hv hmatches
        · exact absurd heq (hkey e he hjoins)
      · obtain ⟨v, hv, hall⟩ := h.joining d hd hinvert
        refine ⟨v, hv, fun e he hjoins heq => ?_⟩
        rcases List.mem_cons.mp he with hsame | he
        · exact absurd (hsame ▸ heq).symm (hkey d hd hinvert)
        · exact hall e he hjoins heq

theorem meets_insert_iff (hkey : ∀ d ∈ before ++ after, d.invert = false → d.key ≠ c.key) :
    r.Meets (before ++ c :: after) ↔ r.Meets (before ++ after) ∧ c.metBy r = true := by
  rw [← meets_cons_iff hkey]
  exact meets_congr fun d => List.perm_middle.mem_iff

end TypedRecord

theorem Inventory.passing_insert (hkey : ∀ d ∈ before ++ after, d.invert = false → d.key ≠ c.key) :
    i.passing (before ++ c :: after) = (i.passing (before ++ after)).filter c.metBy := by
  rw [passing, passing, List.filter_filter]
  refine List.filter_congr fun r _ => ?_
  rw [Bool.eq_iff_iff, Bool.and_eq_true, TypedRecord.not_stopped_iff, TypedRecord.not_stopped_iff,
    TypedRecord.meets_insert_iff hkey, and_comm]

theorem Inventory.passing_perm (hkey : ∀ d ∈ before ++ after, d.invert = false → d.key ≠ c.key) :
    (i.passing (before ++ after)).Perm
      (i.passing (before ++ c :: after) ++ i.passing (before ++ c.inverted :: after)) := by
  have hopposite : c.inverted.metBy = fun r => !c.metBy r := funext c.metBy_inverted
  rw [passing_insert hkey, passing_insert (c := c.inverted) hkey, hopposite]
  exact (List.filter_append_perm c.metBy _).symm

/-- Where rows are distinct, a record shows its id once if the criteria do not stop it. -/
theorem map_id_recordRows_distinct (r : TypedRecord) (request : SearchRequest) :
    (recordRows r { request with distinct := true }).map (·.row.id) =
      if r.stopped request.criteria then [] else [r.id] := by
  rw [recordRows_distinct]
  cases hrows : recordRows r { request with distinct := false } with
  | nil =>
      have hstopped := recordRows_eq_nil_iff.mp hrows
      rw [if_pos hstopped]
      rfl
  | cons row rest =>
      have hpasses : ¬r.stopped request.criteria = true := fun hstopped => by
        have hnone : recordRows r { request with distinct := false } = [] := recordRows_eq_nil_iff.mpr hstopped
        rw [hrows] at hnone
        cases hnone
      have hid : row.row.id = r.id := id_of_mem_recordRows (hrows ▸ List.mem_cons_self)
      rw [if_neg hpasses, ← hid]
      rfl

/-- A search for distinct rows finds a computer once for each of its records that pass. -/
theorem map_id_search_distinct_perm (i : Inventory) (request : SearchRequest) :
    ((i.search { request with distinct := true }).map (·.id)).Perm
      ((i.passing request.criteria).map (·.id)) := by
  have hids : (i.view.flatMap fun r => (recordRows r { request with distinct := true }).map (·.row.id)) =
      (i.passing request.criteria).map (·.id) := by
    rw [Inventory.passing]
    induction i.view with
    | nil => rfl
    | cons r view ih =>
        rw [List.flatMap_cons, ih, map_id_recordRows_distinct, List.filter_cons]
        cases r.stopped request.criteria <;> rfl
  rw [← hids]
  have hperm := (searchView_perm i.view { request with distinct := true }).map (·.id)
  rwa [List.map_flatMap, funext fun r => List.map_map] at hperm

/-- A further criterion, on a key that no other one joins, and its inversion share out the records that give
rows. So they share out the computers that a search finds, one for each record; a computer that both find has
two records at least. -/
theorem records_shared_out_by_inversion {request plain opposite : SearchRequest}
    (hrequest : request.criteria = before ++ after) (hplain : plain.criteria = before ++ c :: after)
    (hopposite : opposite.criteria = before ++ c.inverted :: after)
    (hkey : ∀ d ∈ before ++ after, d.invert = false → d.key ≠ c.key) :
    (∀ r : TypedRecord,
        (recordRows r request ≠ [] ↔ Xor (recordRows r plain ≠ []) (recordRows r opposite ≠ [])) ∧
          ¬(recordRows r plain ≠ [] ∧ recordRows r opposite ≠ [])) ∧
      ∀ i : Inventory,
        let ids (request : SearchRequest) := (i.search request).map (·.id)
        let once (request : SearchRequest) := (i.search { request with distinct := true }).map (·.id)
        (once request).Perm (once plain ++ once opposite) ∧
          ∀ id, (id ∈ ids request ↔ id ∈ ids plain ∨ id ∈ ids opposite) ∧
            (id ∈ ids plain → id ∈ ids opposite → 2 ≤ (i.view.map (·.id)).count id) := by
  refine ⟨fun r => ?_, fun i => ?_⟩
  · have hinverted : r.Meets (before ++ c.inverted :: after) ↔ r.Meets (before ++ after) ∧ (!c.metBy r) = true :=
      c.metBy_inverted r ▸ TypedRecord.meets_insert_iff hkey
    simp only [recordRows_ne_nil_iff, hrequest, hplain, hopposite, TypedRecord.meets_insert_iff hkey, hinverted]
    cases c.metBy r <;> simp [Xor]
  · intro ids once
    let passing (request : SearchRequest) := (i.passing request.criteria).map (·.id)
    have hpassing : (passing request).Perm (passing plain ++ passing opposite) := by
      simp only [passing, hrequest, hplain, hopposite, ← List.map_append]
      exact (Inventory.passing_perm hkey).map _
    refine ⟨?_, fun id => ⟨?_, fun hinPlain hinOpposite => ?_⟩⟩
    · calc
        List.Perm (once request) (passing request) := map_id_search_distinct_perm i request
        List.Perm _ (passing plain ++ passing opposite) := hpassing
        List.Perm _ (once plain ++ once opposite) :=
          (map_id_search_distinct_perm i plain).symm.append (map_id_search_distinct_perm i opposite).symm
    · simp only [ids, mem_map_id_search_iff]
      rw [← List.mem_append]
      exact hpassing.mem_iff
    · have hplainCount : 0 < (passing plain).count id :=
        List.count_pos_iff.mpr (mem_map_id_search_iff.mp hinPlain)
      have hoppositeCount : 0 < (passing opposite).count id :=
        List.count_pos_iff.mpr (mem_map_id_search_iff.mp hinOpposite)
      calc
        2 ≤ (passing plain).count id + (passing opposite).count id := by omega
        _ = (passing request).count id := by rw [hpassing.count_eq, List.count_append]
        _ ≤ (i.view.map (·.id)).count id := (List.filter_sublist.map _).count_le id

end Inverted

def notLinux : Criterion := ⟨"OsName", .eq, "Linux", .text "Linux", true⟩

def withoutGit : Criterion := ⟨"Software.Name", .eq, "Git", .text "Git", true⟩

def withOffice : Criterion := ⟨"Software.Name", .like, "office", .text "office", false⟩

/-- The request for criteria with the defaults for the rest. -/
def requestFor (criteria : List Criterion) : SearchRequest where
  criteria := criteria
  columns := selectColumns Defaults.builtin.columns criteria
  order := Defaults.builtin.order
  direction := Defaults.builtin.direction
  distinct := false
  customSearch := false
  detailTab := Defaults.builtin.detailTab

/-- The parameters of three criteria, of which the second one may be inverted. -/
def officeParams (inverted : Bool) : Params where
  pairs :=
    [("filter1", "OsName"), ("search1", "Linux"), ("invert1", "1"), ("filter2", "Software.Name"),
      ("operator2", "like"), ("search2", "office")] ++ (if inverted then [("invert2", "1")] else []) ++
      [("filter3", "Software.Name"), ("search3", "Git"), ("invert3", "1")]

/-- Of the computers without Linux and without Git two have Office; the other one has no software at all. -/
theorem office_shares_out_computers :
    let request := requestFor ([notLinux] ++ [withoutGit])
    let plain := requestFor ([notLinux] ++ withOffice :: [withoutGit])
    let opposite := requestFor ([notLinux] ++ withOffice.inverted :: [withoutGit])
    let i := Samples.inventory
    let once (request : SearchRequest) := (i.search { request with distinct := true }).map (·.id)
    Samples.request (officeParams false) = .ok plain ∧ Samples.request (officeParams true) = .ok opposite ∧
      (∀ d ∈ [notLinux] ++ [withoutGit], d.invert = false → d.key ≠ withOffice.key) ∧
      (once request).Perm (once plain ++ once opposite) ∧ (once plain).Perm [1, 4] ∧
      (once opposite).Perm [3] := by
  intro request plain opposite i once
  have hkey : ∀ d ∈ [notLinux] ++ [withoutGit], d.invert = false → d.key ≠ withOffice.key := by decide
  have hrequest : request.criteria = [notLinux] ++ [withoutGit] := rfl
  have hplainCriteria : plain.criteria = [notLinux] ++ withOffice :: [withoutGit] := rfl
  have hoppositeCriteria : opposite.criteria = [notLinux] ++ withOffice.inverted :: [withoutGit] := rfl
  have hshared := ((records_shared_out_by_inversion hrequest hplainCriteria hoppositeCriteria hkey).2 i).1
  have hplain : (i.passing plain.criteria).map (·.id) = [1, 4] := by decide +kernel
  have hopposite : (i.passing opposite.criteria).map (·.id) = [3] := by decide +kernel
  exact ⟨rfl, rfl, hkey, hshared, hplain ▸ map_id_search_distinct_perm i plain,
    hopposite ▸ map_id_search_distinct_perm i opposite⟩

end InventorySearch
