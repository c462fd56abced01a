import InventorySearch.Json.Basic
import Mathlib.Data.List.Basic

/-! What an object that is built from members holds under a key: the last value that was given for it. -/

namespace InventorySearch.Json

theorem lookup_cons_eq_ite (k : String) (value : Json) (members : List (String × Json)) (key : String) :
    ((k, value) :: members).lookup key = if key = k then some value else members.lookup key := by
  by_cases heq : key = k
  · simp [heq]
  · rw [List.lookup_cons, beq_false_of_ne heq, if_neg heq]

theorem lookup_insertMember (key : String) (value : Json) (members : List (String × Json)) (other : String) :
    (insertMember key value members).lookup other = if other = key then some value else members.lookup other := by
  induction members with
  | nil => exact lookup_cons_eq_ite key value [] other
  | cons member members ih =>
      obtain ⟨k, v⟩ := member
      rw [insertMember]
      by_cases hless : key < k
      · rw [if_pos hless, lookup_cons_eq_ite]
      · rw [if_neg hless]
        by_cases heq : key = k
        · rw [if_pos heq, lookup_cons_eq_ite, lookup_cons_eq_ite, ← heq]
          by_cases hother : other = key <;> simp [hother]
        · rw [if_neg heq, lookup_cons_eq_ite, lookup_cons_eq_ite, ih]
          by_cases hother : other = key
          · rw [if_pos hother, if_pos hother, if_neg (hother ▸ heq)]
          · rw [if_neg hother, if_neg hother]

theorem lookup_foldl_insertMember (members sorted : List (String × Json)) (key : String) :
    (members.foldl (fun sorted (key, value) => insertMember key value sorted) sorted).lookup key =
      (members.reverse.lookup key).or (sorted.lookup key) := by
  induction members generalizing sorted with
  | nil => rfl
  | cons member members ih =>
      obtain ⟨k, v⟩ := member
      rw [List.foldl_cons, ih, lookup_insertMember, List.reverse_cons, List.lookup_append, lookup_cons_eq_ite,
        Option.or_assoc]
      by_cases heq : key = k <;> simp [heq]

theorem get?_ofMembers (members : List (String × Json)) (key : String) :
    (ofMembers members).get? key = members.reverse.lookup key := by
  have hfold := lookup_foldl_insertMember members [] key
  rw [List.lookup_nil, Option.or_none] at hfold
  exact hfold

theorem lookup_eq_some_iff_mem {members : List (String × Json)} (hnodup : (members.map Prod.fst).Nodup) {key : String}
    {value : Json} : members.lookup key = some value ↔ (key, value) ∈ members := by
  induction members with
  | nil => simp
  | cons member members ih =>
      obtain ⟨k, v⟩ := member
      obtain ⟨hfresh, hrest⟩ := List.nodup_cons.mp hnodup
      rw [lookup_cons_eq_ite, List.mem_cons, Prod.mk.injEq]
      by_cases heq : key = k
      · subst heq
        have habsent : (key, value) ∉ members := fun hmem => hfresh (List.mem_map.mpr ⟨(key, value), hmem, rfl⟩)
        simp [habsent, eq_comm]
      · simp [heq, ih hrest]

/-- An object that is built from members with different keys holds these members and nothing else. -/
theorem get?_ofMembers_eq_some_iff {members : List (String × Json)} (hnodup : (members.map Prod.fst).Nodup)
    {key : String} {value : Json} : (ofMembers members).get? key = some value ↔ (key, value) ∈ members := by
  have hreverse : (members.reverse.map Prod.fst).Nodup := by
    rw [List.map_reverse]
    exact (List.reverse_perm _).nodup_iff.mpr hnodup
  rw [get?_ofMembers, lookup_eq_some_iff_mem hreverse, List.mem_reverse]

theorem ofTexts_injective : Function.Injective ofTexts := by
  intro items items' h
  have hstring : Function.Injective string := fun _ _ => string.inj
  exact List.map_injective_iff.mpr hstring (array.inj h)

end InventorySearch.Json
