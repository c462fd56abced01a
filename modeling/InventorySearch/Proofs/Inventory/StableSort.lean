import InventorySearch.Proofs.Inventory.Distinct
import Mathlib.Data.List.Pairwise

/-! Searching sorts stably. A stable sort is told by what it does: it keeps the elements, orders them, and
leaves those that compare equal in the order in which they came. There is one such list as long as comparing is
a total preorder, which the comparison of rows is on the rows of a typed view. -/

namespace InventorySearch

section StableSort

variable {α : Type} {order : α → α → Ordering} {given sorted : List α}

/-- Comparing is a total preorder on the elements of a list. -/
structure OrdersTotally (order : α → α → Ordering) (elements : List α) : Prop where
  swap : ∀ a ∈ elements, ∀ b ∈ elements, order b a = (order a b).swap
  trans : ∀ a ∈ elements, ∀ b ∈ elements, ∀ c ∈ elements,
    (order a b).isLE → (order b c).isLE → (order a c).isLE

/-- A list with the elements of a given one, in ascending order and with ties as they are given. -/
structure IsStableSort (order : α → α → Ordering) (given sorted : List α) : Prop where
  perm : sorted.Perm given
  ascending : sorted.Pairwise fun a b => (order a b).isLE
  ties : ∀ a ∈ given, sorted.filter (fun b => order a b = .eq) = given.filter fun b => order a b = .eq

/-- Stable sorting depends only on how the given elements compare with each other. -/
theorem IsStableSort.congr {order' : α → α → Ordering} (h : IsStableSort order given sorted)
    (hsame : ∀ a ∈ given, ∀ b ∈ given, order a b = order' a b) : IsStableSort order' given sorted where
  perm := h.perm
  ascending := h.ascending.imp_of_mem fun ha hb hle => by
    rwa [← hsame _ (h.perm.subset ha) _ (h.perm.subset hb)]
  ties := by
    intro a ha
    have hties := h.ties a ha
    rw [List.filter_congr fun b hb => by rw [hsame a ha b (h.perm.subset hb)],
      List.filter_congr (l := given) fun b hb => by rw [hsame a ha b hb]] at hties
    exact hties

theorem OrdersTotally.of_transCmp (order' : α → α → Ordering) [Std.TransCmp order'] {elements : List α}
    (hsame : ∀ a ∈ elements, ∀ b ∈ elements, order a b = order' a b) : OrdersTotally order elements where
  swap a ha b hb := by
    rw [hsame a ha b hb, hsame b hb a ha]
    exact Std.OrientedCmp.eq_swap
  trans a ha b hb c hc hab hbc := by
    rw [hsame a ha b hb] at hab
    rw [hsame b hb c hc] at hbc
    rw [hsame a ha c hc]
    exact Std.TransCmp.isLE_trans hab hbc

variable [Std.TransCmp order]

theorem isLE_or_isLE_swap (a b : α) : ((order a b).isLE || (order b a).isLE) = true := by
  have hswap : order b a = (order a b).swap := Std.OrientedCmp.eq_swap
  rw [hswap]
  cases order a b <;> rfl

theorem isStableSort_mergeSort (given : List α) :
    IsStableSort order given (given.mergeSort fun a b => (order a b).isLE) where
  perm := List.mergeSort_perm _ _
  ascending := List.pairwise_mergeSort (fun _ _ _ => Std.TransCmp.isLE_trans) isLE_or_isLE_swap _
  ties := by
    intro a _
    -- The elements that tie are in order as they are given, so that merging leaves them as a part.
    have htied : (given.filter fun b => order a b = .eq).Pairwise fun b c => (order b c).isLE := by
      refine List.pairwise_of_forall_mem_list fun b hb c hc => ?_
      have hab : order a b = .eq := by simpa using (List.mem_filter.mp hb).2
      have hac : order a c = .eq := by simpa using (List.mem_filter.mp hc).2
      have hbc : order b c = .eq := Std.TransCmp.eq_trans (Std.OrientedCmp.eq_symm hab) hac
      rw [hbc]
      rfl
    have hpart := (List.sublist_mergeSort (fun _ _ _ => Std.TransCmp.isLE_trans) isLE_or_isLE_swap htied
      List.filter_sublist).filter fun b => decide (order a b = .eq)
    rw [List.filter_filter, List.filter_congr fun b _ => Bool.and_self _] at hpart
    exact (hpart.eq_of_length ((List.mergeSort_perm _ _).filter _).length_eq.symm).symm

/-- The first element of a list in order comes no later than any other. -/
theorem isLE_head_of_mem {a b : α} {l : List α} (h : (a :: l).Pairwise fun a b => (order a b).isLE)
    (hb : b ∈ a :: l) : (order a b).isLE := by
  rcases List.mem_cons.mp hb with rfl | hb
  · have hself : order b b = .eq := Std.ReflCmp.compare_self
    rw [hself]
    rfl
  · exact List.rel_of_pairwise_cons h hb

theorem filter_eq_of_filter_cons_eq {p : α → Bool} {a : α} {l m : List α}
    (h : (a :: l).filter p = (a :: m).filter p) : l.filter p = m.filter p := by
  cases hp : p a <;> simpa [List.filter_cons, hp] using h

/-- Two lists in order are the same where they have the same elements and the same ties. -/
theorem eq_of_same_ties {l m : List α} (hperm : l.Perm m) (hl : l.Pairwise fun a b => (order a b).isLE)
    (hm : m.Pairwise fun a b => (order a b).isLE)
    (hties : ∀ a ∈ l, l.filter (fun b => order a b = .eq) = m.filter fun b => order a b = .eq) : l = m := by
  induction l generalizing m with
  | nil => exact hperm.nil_eq
  | cons a l ih =>
      cases m with
      | nil => exact absurd hperm.eq_nil (List.cons_ne_nil a l)
      | cons b m =>
          have ha : order a a = .eq := Std.ReflCmp.compare_self
          have hab : order a b = .eq :=
            Std.OrientedCmp.isLE_antisymm (isLE_head_of_mem hl (hperm.mem_iff.mpr List.mem_cons_self))
              (isLE_head_of_mem hm (hperm.mem_iff.mp List.mem_cons_self))
          obtain rfl : a = b := by
            have hfirst := hties a List.mem_cons_self
            simp only [List.filter_cons, ha, hab, decide_true, if_true] at hfirst
            exact (List.cons.inj hfirst).1
          refine congrArg (a :: ·) (ih hperm.cons_inv hl.of_cons hm.of_cons fun c hc => ?_)
          exact filter_eq_of_filter_cons_eq (hties c (List.mem_cons_of_mem a hc))

/-- There is one stable sort of a list. -/
theorem isStableSort_iff {l : List α} :
    IsStableSort order given l ↔ l = given.mergeSort fun a b => (order a b).isLE := by
  have hsort : IsStableSort order given (given.mergeSort fun a b => (order a b).isLE) :=
    isStableSort_mergeSort given
  constructor
  · intro h
    refine eq_of_same_ties (h.perm.trans hsort.perm.symm) h.ascending hsort.ascending fun a ha => ?_
    rw [h.ties a (h.perm.subset ha), hsort.ties a (h.perm.subset ha)]
  · rintro rfl
    exact hsort

end StableSort

/-! ### Sorted rows -/

/-- A value that rows are sorted by is at most another: a missing one is the least, and of two values that are
there the first can be compared with the second and is not greater. -/
inductive AtMost : Option TypedValue → Option TypedValue → Prop
  | missing (w : Option TypedValue) : AtMost none w
  | present {v w : TypedValue} {o : Ordering} (hcompare : v.compare? w = some o) (hle : o.isLE) :
      AtMost (some v) (some w)

section Values

variable {a b : Option TypedValue}

theorem isLE_compareValues_iff (h : ∀ v ∈ a, ∀ w ∈ b, v.valueType = w.valueType) :
    (compareValues a b).isLE ↔ AtMost a b := by
  cases a with
  | none => cases b <;> exact ⟨fun _ => .missing _, fun _ => rfl⟩
  | some v =>
      cases b with
      | none => exact ⟨fun hle => by simp [compareValues] at hle, nofun⟩
      | some w =>
          have hcompare := TypedValue.compare?_of_valueType_eq (h v rfl w rfl)
          rw [compareValues, hcompare, Option.getD_some]
          constructor
          · exact fun hle => .present hcompare hle
          · rintro (_ | ⟨hcompare', hle⟩)
            rwa [Option.some.inj (hcompare.symm.trans hcompare')]

theorem swap_compareValues (h : ∀ v ∈ a, ∀ w ∈ b, v.valueType = w.valueType) :
    (compareValues a b).swap = compareValues b a := by
  rw [compareValues_eq h, compareValues_eq fun w hw v hv => (h v hv w hw).symm]
  exact Std.OrientedCmp.eq_swap.symm

theorem compareValues_eq_lt_iff (h : ∀ v ∈ a, ∀ w ∈ b, v.valueType = w.valueType) :
    compareValues a b = .lt ↔ AtMost a b ∧ ¬AtMost b a := by
  rw [← isLE_compareValues_iff h, ← isLE_compareValues_iff fun w hw v hv => (h v hv w hw).symm,
    ← swap_compareValues h]
  cases compareValues a b <;> decide

end Values

namespace SortedRow

/-- A row comes no later than another. A direction turns the values around, but not the ids, which decide
between values neither of which is greater. -/
structure Precedes (direction : SortDirection) (a b : SortedRow) : Prop where
  value : match direction with
    | .asc => AtMost a.value b.value
    | .desc => AtMost b.value a.value
  id : AtMost a.value b.value → AtMost b.value a.value → a.row.id ≤ b.row.id

theorem isLE_order_iff_precedes {a b : SortedRow}
    (h : ∀ v ∈ a.value, ∀ w ∈ b.value, v.valueType = w.valueType) (direction : SortDirection) :
    (a.order direction b).isLE ↔ Precedes direction a b := by
  have hid : (compare a.row.id b.row.id).isLE ↔ a.row.id ≤ b.row.id := Std.isLE_compare
  have hswap : ∀ w ∈ b.value, ∀ v ∈ a.value, w.valueType = v.valueType := fun w hw v hv => (h v hv w hw).symm
  rw [SortedRow.order.eq_def, Ordering.isLE_then_iff_and, hid]
  -- Ids only count where neither value is less, which is where each is at most the other.
  cases direction with
  | asc =>
      simp only [isLE_compareValues_iff h, compareValues_eq_lt_iff h]
      exact ⟨fun ⟨hvalue, hties⟩ => ⟨hvalue, by tauto⟩, fun ⟨hvalue, hties⟩ => ⟨hvalue, by tauto⟩⟩
  | desc =>
      simp only [swap_compareValues h, isLE_compareValues_iff hswap, compareValues_eq_lt_iff hswap]
      exact ⟨fun ⟨hvalue, hties⟩ => ⟨hvalue, by tauto⟩, fun ⟨hvalue, hties⟩ => ⟨hvalue, by tauto⟩⟩

end SortedRow

/-- A record gives a row for one combination of its joined values. The row is sorted by the value of this
combination where the criteria join the order column, and else by the first that the record has. -/
structure TypedRecord.Gives (r : TypedRecord) (request : SearchRequest)
    (combination : List (String × TypedValue)) (row : SortedRow) : Prop where
  mem : combination ∈ combinations (r.combined request)
  row_eq : row = rowOf r request combination
  joined : request.order ∈ joinedKeys request.criteria → ∃ v ∈ r.remaining request.criteria request.order,
    combination.lookup request.order = some v ∧ row.value = some v
  first : request.order ∉ joinedKeys request.criteria → row.value = r.first? request.order

theorem exists_gives_of_mem_recordRows {r : TypedRecord} {request : SearchRequest} {row : SortedRow}
    (h : row ∈ recordRows r request) : ∃ combination, r.Gives request combination row := by
  rw [recordRows_eq] at h
  split_ifs at h
  · cases h
  · obtain ⟨combination, hcombination, rfl⟩ := List.mem_map.mp h
    refine ⟨combination, hcombination, rfl, fun hjoined => ?_, TypedRecord.columnValue_of_not_mem_joinedKeys
      hcombination⟩
    rw [TypedRecord.combined_eq_map] at hcombination
    obtain ⟨v, hv, hlookup⟩ := TypedRecord.lookup_of_mem_combinations hcombination hjoined
    exact ⟨v, TypedRecord.mem_remaining_of_mem_combinedValues hv, hlookup, by
      rw [rowOf, columnValue, hlookup, Option.some_or]⟩

/-- A search for any request returns the stable sort of the rows that the records of a typed view give. The
values that these are sorted by have one type, so that comparing the rows is a total preorder. -/
theorem search_eq_stable_sort {i : Inventory} (h : i.Arises) (request : SearchRequest) :
    let rows := i.view.flatMap fun r => recordRows r request
    let order := SortedRow.order request.direction
    SortedByOneType rows ∧ OrdersTotally order rows ∧
      (∃ sorted, i.search request = sorted.map (·.row) ∧
        (∀ l, IsStableSort order rows l ↔ l = sorted) ∧
        sorted.Pairwise (SortedRow.Precedes request.direction)) ∧
      ∀ r ∈ i.view, ∀ row ∈ recordRows r request, ∃ combination, r.Gives request combination row := by
  intro rows order
  obtain ⟨catalog, unknown, hview⟩ := h.exists_typeRecords
  have hone : SortedByOneType rows := sortedByOneType_of_typeRecords hview request
  have hsame : ∀ a ∈ rows, ∀ b ∈ rows, order a b = SortedRow.totalOrder request.direction a b :=
    fun a ha b hb => SortedRow.order_eq_totalOrder (hone a ha b hb) request.direction
  have hunique : ∀ l, IsStableSort order rows l ↔ l = rows.mergeSort fun a b => (order a b).isLE := by
    intro l
    rw [mergeSort_eq_of_sortedByOneType hone, ← isStableSort_iff]
    exact ⟨fun h => h.congr hsame, fun h => h.congr fun a ha b hb => (hsame a ha b hb).symm⟩
  have hsort : IsStableSort order rows (rows.mergeSort fun a b => (order a b).isLE) := (hunique _).mpr rfl
  refine ⟨hone, .of_transCmp _ hsame, ⟨_, rfl, hunique, ?_⟩, fun r _ row hrow =>
    exists_gives_of_mem_recordRows hrow⟩
  exact hsort.ascending.imp_of_mem fun {a b} ha hb hle => (SortedRow.isLE_order_iff_precedes
    (hone a (hsort.perm.subset ha) b (hsort.perm.subset hb)) _).mp hle

/-- Two computers with the same two programs, the one with the greater id first. -/
def programsOfTwo : Inventory :=
  ⟨[⟨2, officeComputer.fields⟩, ⟨1, officeComputer.fields⟩],
    [⟨2, officeComputerView.fields⟩, ⟨1, officeComputerView.fields⟩]⟩

/-- Descending programs leave the ids ascending. -/
theorem programs_descending_ids_ascending :
    let row (id : Int64) (program : String) : Row :=
      ⟨id, [("Name", some (.text "test")), ("Software.Name", some (.text program))]⟩
    programsOfTwo.Arises ∧ programsOfTwo.search { programsByName with direction := .desc } =
      [row 1 "Office", row 2 "Office", row 1 "Firefox", row 2 "Firefox"] := by
  intro row
  have hload : Inventory.load .builtin programsOfTwo.records = .ok programsOfTwo := rfl
  have harises : programsOfTwo.Arises := .loaded hload
  obtain ⟨_, _, ⟨sorted, hsearch, hsorted, _⟩, _⟩ :=
    search_eq_stable_sort harises { programsByName with direction := .desc }
  let sortedRow (id : Int64) (program : String) : SortedRow := ⟨some (.text program), row id program⟩
  have hrows := (hsorted [sortedRow 1 "Office", sortedRow 2 "Office", sortedRow 1 "Firefox",
    sortedRow 2 "Firefox"]).mp ⟨by decide, by decide, by decide⟩
  refine ⟨harises, ?_⟩
  rw [hsearch, ← hrows]
  rfl

end InventorySearch
