import InventorySearch.Columns
import Mathlib.Data.List.Induction
import Mathlib.Data.List.Nodup

/-! Selecting columns is listing the chosen columns and then the keys that the criteria reveal, each name
at its first place only. The laws of the selection are those of a list without repetitions. -/

namespace InventorySearch

/-! ### Lists without repetitions -/

section Repetitions

variable {α : Type} [DecidableEq α]

theorem eraseDups_concat (items : List α) (a : α) :
    (items ++ [a]).eraseDups = if a ∈ items then items.eraseDups else items.eraseDups ++ [a] := by
  rw [List.eraseDups_append]
  by_cases hmem : a ∈ items
  · simp [List.removeAll, hmem]
  · simp [List.removeAll, hmem, List.eraseDups_cons]

theorem nodup_eraseDups (items : List α) : items.eraseDups.Nodup := by
  induction items using List.reverseRecOn with
  | nil => exact List.nodup_nil
  | append_singleton items a ih =>
      rw [eraseDups_concat]
      split_ifs with hmem
      · exact ih
      · refine List.nodup_append.mpr ⟨ih, List.nodup_singleton a, ?_⟩
        rintro b hb c hc rfl
        cases List.mem_singleton.mp hc
        exact hmem (List.mem_eraseDups.mp hb)

theorem eraseDups_of_nodup {items : List α} (h : items.Nodup) : items.eraseDups = items := by
  induction items using List.reverseRecOn with
  | nil => rfl
  | append_singleton items a ih =>
      have hdisjoint := List.disjoint_of_nodup_append h
      rw [eraseDups_concat, if_neg fun ha => hdisjoint ha List.mem_cons_self, ih h.of_append_left]

/-- What is there already adds nothing. -/
theorem eraseDups_append_of_subset {items more : List α} (h : more ⊆ items) :
    (items ++ more).eraseDups = items.eraseDups := by
  have hnone : more.removeAll items = [] := by
    simpa [List.removeAll, List.filter_eq_nil_iff] using fun a ha => h ha
  rw [List.eraseDups_append, hnone, List.eraseDups_nil, List.append_nil]

/-- A list holds the items of another one, each of them once and in the order in which they first come there. -/
structure ListsOnce (items out : List α) : Prop where
  mem_iff : ∀ a, a ∈ out ↔ a ∈ items
  ordered : out.Pairwise fun a b => items.idxOf a < items.idxOf b

theorem ListsOnce.nodup {items out : List α} (h : ListsOnce items out) : out.Nodup :=
  List.Pairwise.imp (fun hlt heq => absurd (heq ▸ hlt) (Nat.lt_irrefl _)) h.ordered

theorem listsOnce_eraseDups (items : List α) : ListsOnce items items.eraseDups := by
  refine ⟨fun a => List.mem_eraseDups, ?_⟩
  induction items using List.reverseRecOn with
  | nil => exact .nil
  | append_singleton items a ih =>
      have hearlier : items.eraseDups.Pairwise fun b c => (items ++ [a]).idxOf b < (items ++ [a]).idxOf c := by
        refine ih.imp_of_mem fun hb hc hlt => ?_
        rwa [List.idxOf_append_of_mem (List.mem_eraseDups.mp hb), List.idxOf_append_of_mem (List.mem_eraseDups.mp hc)]
      rw [eraseDups_concat]
      split_ifs with hmem
      · exact hearlier
      · refine List.pairwise_append.mpr ⟨hearlier, List.pairwise_singleton _ a, fun b hb c hc => ?_⟩
        cases List.mem_singleton.mp hc
        have hb := List.mem_eraseDups.mp hb
        rw [List.idxOf_append_of_mem hb, List.idxOf_append_of_notMem hmem]
        exact Nat.lt_add_right _ (List.idxOf_lt_length_iff.mpr hb)

/-- The items and their order leave no choice. -/
theorem listsOnce_iff {items out : List α} : ListsOnce items out ↔ out = items.eraseDups := by
  constructor
  · intro h
    have hlisted := listsOnce_eraseDups items
    have hperm : out.Perm items.eraseDups :=
      (List.perm_ext_iff_of_nodup h.nodup hlisted.nodup).mpr fun a => (h.mem_iff a).trans (hlisted.mem_iff a).symm
    exact hperm.eq_of_pairwise (fun a b _ _ hab hba => absurd hba (Nat.lt_asymm hab)) h.ordered hlisted.ordered
  · rintro rfl
    exact listsOnce_eraseDups items

end Repetitions

/-! ### Selected columns -/

theorem foldl_addNew (seen items : List String) :
    items.foldl addNew seen.eraseDups = (seen ++ items).eraseDups := by
  induction items generalizing seen with
  | nil => rw [List.append_nil]; rfl
  | cons item items ih =>
      have hadd : addNew seen.eraseDups item = (seen ++ [item]).eraseDups := by
        rw [eraseDups_concat, addNew]
        simp only [List.contains_iff_mem, List.mem_eraseDups]
      rw [List.foldl_cons, hadd, ih, List.append_assoc, List.singleton_append]

theorem withoutRepeats_eq (items : List String) : withoutRepeats items = items.eraseDups :=
  foldl_addNew [] items

/-- The keys of the criteria that give cause to show their columns. -/
def revealedKeys (criteria : List Criterion) : List String :=
  (criteria.filter Criterion.revealsColumn).map (·.key)

theorem selectColumns_eq (base : List String) (criteria : List Criterion) :
    selectColumns base criteria = (base ++ revealedKeys criteria).eraseDups := by
  rw [selectColumns, withoutRepeats_eq]
  exact foldl_addNew base (revealedKeys criteria)

theorem mem_selectColumns {base : List String} {criteria : List Criterion} {column : String} :
    column ∈ selectColumns base criteria ↔ column ∈ base ∨ column ∈ revealedKeys criteria := by
  rw [selectColumns_eq, List.mem_eraseDups, List.mem_append]

theorem nodup_selectColumns (base : List String) (criteria : List Criterion) :
    (selectColumns base criteria).Nodup := by
  rw [selectColumns_eq]
  exact nodup_eraseDups _

theorem mem_revealedKeys {criteria : List Criterion} {key : String} :
    key ∈ revealedKeys criteria ↔ ∃ c ∈ criteria, (c.operator ≠ .eq ∨ c.invert = true) ∧ c.key = key := by
  simp [revealedKeys, Criterion.revealsColumn, and_assoc]

theorem withoutRepeats_selectColumns (base : List String) (criteria : List Criterion) :
    withoutRepeats (selectColumns base criteria) = selectColumns base criteria := by
  rw [withoutRepeats_eq, eraseDups_of_nodup (nodup_selectColumns base criteria)]

/-- Selecting with more criteria goes on from what is selected. -/
theorem selectColumns_append (base : List String) (criteria more : List Criterion) :
    selectColumns base (criteria ++ more) = selectColumns (selectColumns base criteria) more := by
  rw [selectColumns.eq_def (selectColumns base criteria), withoutRepeats_selectColumns, selectColumns, selectColumns,
    List.filter_append, List.map_append, List.foldl_append]

/-- Selecting again from the selected columns, with some of the criteria, changes nothing. -/
theorem selectColumns_of_subset {fewer criteria : List Criterion} (h : fewer ⊆ criteria) (base : List String) :
    selectColumns (selectColumns base criteria) fewer = selectColumns base criteria := by
  have hrevealed : revealedKeys fewer ⊆ selectColumns base criteria := by
    intro key hkey
    obtain ⟨c, hc, hreveals⟩ := mem_revealedKeys.mp hkey
    exact mem_selectColumns.mpr (Or.inr (mem_revealedKeys.mpr ⟨c, h hc, hreveals⟩))
  rw [selectColumns_eq, eraseDups_append_of_subset hrevealed, ← withoutRepeats_eq, withoutRepeats_selectColumns]

theorem selectColumns_selectColumns (base : List String) (criteria : List Criterion) :
    selectColumns (selectColumns base criteria) criteria = selectColumns base criteria :=
  selectColumns_of_subset (List.Subset.refl criteria) base

/-- The chosen columns come first, then the keys that the criteria reveal and that are not among them. Either are
listed once, in the order in which they first come, and so no column is there twice. Selecting again with some of the
criteria changes nothing, and selecting with criteria in two parts is selecting with one part after the other. -/
theorem columns_selected_once (base : List String) (criteria : List Criterion) :
    (∀ columns, columns = selectColumns base criteria ↔ ∃ chosen revealed, columns = chosen ++ revealed ∧
        ListsOnce base chosen ∧ ListsOnce ((revealedKeys criteria).filter (· ∉ base)) revealed) ∧
      (selectColumns base criteria).Nodup ∧
      (∀ column, column ∈ selectColumns base criteria ↔ column ∈ base ∨
        ∃ c ∈ criteria, (c.operator ≠ .eq ∨ c.invert = true) ∧ c.key = column) ∧
      (∀ fewer ⊆ criteria, selectColumns (selectColumns base criteria) fewer = selectColumns base criteria) ∧
      ∀ more, selectColumns base (criteria ++ more) = selectColumns (selectColumns base criteria) more := by
  refine ⟨fun columns => ?_, nodup_selectColumns base criteria, fun column => ?_,
    fun fewer h => selectColumns_of_subset h base, selectColumns_append base criteria⟩
  · have hremaining : (revealedKeys criteria).removeAll base = (revealedKeys criteria).filter (· ∉ base) := by
      simp [List.removeAll]
    rw [selectColumns_eq, List.eraseDups_append, hremaining]
    constructor
    · rintro rfl
      exact ⟨_, _, rfl, listsOnce_eraseDups _, listsOnce_eraseDups _⟩
    · rintro ⟨chosen, revealed, rfl, hchosen, hrevealed⟩
      rw [listsOnce_iff.mp hchosen, listsOnce_iff.mp hrevealed]
  · rw [mem_selectColumns, mem_revealedKeys]

/-- Chosen columns with one of them twice, and criteria that reveal two keys, of which one was chosen and the other
is revealed by two of them. -/
theorem columns_of_criteria_selected_once :
    let linux : Criterion := ⟨"OsName", .eq, "Linux", .text "Linux", true⟩
    let user : Criterion := ⟨"UserName", .eq, "a", .text "a", false⟩
    let named : Criterion := ⟨"Name", .like, "a", .text "a", false⟩
    let columns := selectColumns ["Name", "InventoryDate", "Name"] [linux, user, named, linux]
    columns = ["Name", "InventoryDate", "OsName"] ∧ [named, linux] ⊆ [linux, user, named, linux] ∧
      selectColumns columns [named, linux] = columns := by
  intro linux user named columns
  have hfewer : [named, linux] ⊆ [linux, user, named, linux] := by decide
  exact ⟨by decide, hfewer, (columns_selected_once _ _).2.2.2.1 _ hfewer⟩

end InventorySearch
