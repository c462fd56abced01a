import InventorySearch.Group.Members
import Mathlib.Order.Compare

/-! Who is a member of a group: whoever is always one, and whoever the query finds unless never one. A stored
entry of automatic membership means what no entry means. -/

namespace InventorySearch

theorem mem_foldl_insert {entries : List (Int64 × Membership)} {kept : IdSet} {id : Int64} :
    id ∈ entries.foldl (fun members entry => members.insert entry.1) kept ↔
      id ∈ entries.map (·.1) ∨ id ∈ kept := by
  induction entries generalizing kept with
  | nil => simp
  | cons entry entries ih =>
      rw [List.foldl_cons, ih, Std.TreeSet.mem_insert, Std.LawfulEqCmp.compare_eq_iff_eq, List.map_cons,
        List.mem_cons, eq_comm, or_left_comm, or_assoc]

theorem mem_resolveMembers_iff {found : IdSet} {overrides : Std.TreeMap Int64 Membership} {id : Int64} :
    id ∈ resolveMembers found overrides ↔
      overrides[id]? = some .always ∨ overrides[id]? ≠ some .never ∧ id ∈ found := by
  have hadded : id ∈ (overrides.toList.filter fun entry => entry.2 == .always).map (·.1) ↔
      overrides[id]? = some .always := by
    rw [← Std.TreeMap.mem_toList_iff_getElem?_eq_some, List.mem_map]
    constructor
    · rintro ⟨⟨key, membership⟩, hentry, rfl⟩
      obtain ⟨hmem, halways⟩ := List.mem_filter.mp hentry
      have heq : membership = .always := eq_of_beq halways
      exact heq ▸ hmem
    · intro hmem
      exact ⟨(id, .always), List.mem_filter.mpr ⟨hmem, rfl⟩, rfl⟩
  have hkept : (id ∈ found.filter fun id => overrides[id]? != some .never) ↔
      overrides[id]? ≠ some .never ∧ id ∈ found := by
    rw [Std.TreeSet.mem_filter]
    simp only [Std.TreeSet.get_eq, bne_iff_ne, exists_prop]
    exact and_comm
  rw [resolveMembers, mem_foldl_insert, hadded, hkept]

namespace Group

variable {g : Group} {id : Int64}

theorem membership_eq_iff {forced : Membership} (hforced : forced ≠ .automatic) :
    g.membership id = forced ↔ g.overrides[id]? = some forced := by
  unfold membership
  cases g.overrides[id]? with
  | none => simp [Ne.symm hforced]
  | some stored => simp

theorem mem_resolveMembers_iff {found : IdSet} :
    id ∈ resolveMembers found g.overrides ↔
      g.membership id = .always ∨ g.membership id ≠ .never ∧ id ∈ found := by
  rw [InventorySearch.mem_resolveMembers_iff, Ne, Ne, membership_eq_iff (by decide), membership_eq_iff (by decide)]

end Group

/-- A set of computers is shown in the strict order of their ids. -/
theorem pairwise_toList_idSet (ids : IdSet) : ids.toList.Pairwise (· < ·) :=
  Std.TreeSet.ordered_toList.imp Std.compare_eq_lt.mp

end InventorySearch
