import InventorySearch.Group.Store
import Mathlib.Data.String.Basic
import Mathlib.Tactic.SplitIfs

/-! What is stored under a name after each change of the stored groups. -/

namespace InventorySearch

theorem Group.query_setMembership (g : Group) (id : Int64) (membership : Membership) :
    (g.setMembership id membership).query = g.query := by
  cases membership <;> rfl

theorem Group.name_setMembership (g : Group) (id : Int64) (membership : Membership) :
    (g.setMembership id membership).name = g.name := by
  cases membership <;> rfl

theorem Group.getElem?_setMembership (g : Group) (id : Int64) (membership : Membership) (other : Int64) :
    (g.setMembership id membership).overrides[other]? =
      if id = other then if membership = .automatic then none else some membership else g.overrides[other]? := by
  cases membership <;>
    simp [setMembership, Std.TreeMap.getElem?_erase, Std.TreeMap.getElem?_insert, Std.LawfulEqCmp.compare_eq_iff_eq]

namespace GroupStore

variable (s : GroupStore)

theorem get?_insert (name : String) (g : Group) (other : String) :
    get? ⟨s.groups.insert name g⟩ other = if name = other then some g else s.get? other := by
  simp only [get?, Std.TreeMap.getElem?_insert, Std.LawfulEqCmp.compare_eq_iff_eq]

theorem get?_put (g : Group) (other : String) :
    (s.put g).get? other = if g.name = other then some g else s.get? other :=
  s.get?_insert g.name g other

theorem get?_upsert (name : String) (description query : Option String) (other : String) :
    (s.upsert name description query).get? other =
      if name = other then some (s.replaced name description query) else s.get? other :=
  s.get?_insert name _ other

theorem get?_remove (name other : String) :
    (s.remove name).get? other = if name = other then none else s.get? other := by
  simp only [remove, get?, Std.TreeMap.getElem?_erase, Std.LawfulEqCmp.compare_eq_iff_eq]

theorem get?_setMembership (name : String) (id : Int64) (membership : Membership) (other : String) :
    (s.setMembership name id membership).get? other =
      if name = other then (s.get? name).map fun g => g.setMembership id membership else s.get? other := by
  unfold setMembership
  cases hg : s.get? name with
  | none =>
      split_ifs with heq
      · rw [← heq, hg]
        rfl
      · rfl
  | some g => exact s.get?_insert name _ other

theorem mem_toList_iff {g : Group} : g ∈ s.toList ↔ ∃ name, s.get? name = some g := by
  simp only [toList, List.mem_map, get?]
  constructor
  · rintro ⟨⟨name, stored⟩, hmem, rfl⟩
    exact ⟨name, Std.TreeMap.mem_toList_iff_getElem?_eq_some.mp hmem⟩
  · rintro ⟨name, hget⟩
    exact ⟨(name, g), Std.TreeMap.mem_toList_iff_getElem?_eq_some.mpr hget, rfl⟩

theorem mem_or_get?_of_get?_foldl_put {groups : List Group} {name : String} {g : Group}
    (h : (groups.foldl put s).get? name = some g) : g ∈ groups ∨ s.get? name = some g := by
  induction groups generalizing s with
  | nil => exact Or.inr h
  | cons first groups ih =>
      rcases ih (s.put first) h with hmem | hget
      · exact Or.inl (List.mem_cons_of_mem _ hmem)
      · rw [get?_put] at hget
        split_ifs at hget
        · cases hget
          exact Or.inl List.mem_cons_self
        · exact Or.inr hget

/-- Only given groups are in a store of them. -/
theorem mem_of_get?_ofList {groups : List Group} {name : String} {g : Group}
    (h : (ofList groups).get? name = some g) : g ∈ groups := by
  rcases mem_or_get?_of_get?_foldl_put empty h with hmem | hget
  · exact hmem
  · rw [get?, empty, Std.TreeMap.getElem?_emptyc] at hget
    cases hget

/-! ### Names -/

/-- Every group is stored under its own name. -/
def Named : Prop := ∀ name g, s.get? name = some g → g.name = name

variable {s}

theorem Named.put (h : s.Named) (g : Group) : (s.put g).Named := by
  intro other stored hget
  rw [get?_put] at hget
  split_ifs at hget with heq
  · cases hget
    exact heq
  · exact h other stored hget

theorem named_ofList (groups : List Group) : (ofList groups).Named := by
  have hempty : empty.Named := by
    intro name g hget
    simp [get?, empty] at hget
  have hfold : ∀ s : GroupStore, s.Named → (groups.foldl GroupStore.put s).Named := by
    induction groups with
    | nil => exact fun s hs => hs
    | cons g groups ih => exact fun s hs => ih _ (hs.put g)
  exact hfold empty hempty

theorem Named.name_replaced (h : s.Named) (name : String) (description query : Option String) :
    (s.replaced name description query).name = name := by
  simp only [replaced]
  cases hget : s.get? name with
  | none => rfl
  | some g => exact h name g hget

theorem Named.upsert (h : s.Named) (name : String) (description query : Option String) :
    (s.upsert name description query).Named := by
  intro other stored hget
  rw [get?_upsert] at hget
  split_ifs at hget with heq
  · cases hget
    rw [h.name_replaced, heq]
  · exact h other stored hget

theorem Named.remove (h : s.Named) (name : String) : (s.remove name).Named := by
  intro other stored hget
  rw [get?_remove] at hget
  split_ifs at hget
  exact h other stored hget

theorem Named.setMembership (h : s.Named) (name : String) (id : Int64) (membership : Membership) :
    (s.setMembership name id membership).Named := by
  intro other changed hget
  rw [get?_setMembership] at hget
  split_ifs at hget with heq
  · obtain ⟨stored, hstored, rfl⟩ := Option.map_eq_some_iff.mp hget
    rw [Group.name_setMembership, h name stored hstored, heq]
  · exact h other changed hget

theorem Named.pairwise_toList (h : s.Named) : s.toList.Pairwise fun a b => a.name < b.name := by
  have hname : ∀ entry ∈ s.groups.toList, entry.2.name = entry.1 :=
    fun (name, g) hmem => h name g (Std.TreeMap.mem_toList_iff_getElem?_eq_some.mp hmem)
  refine List.pairwise_map.mpr (Std.TreeMap.ordered_keys_toList.imp_of_mem ?_)
  intro first second hfirst hsecond hlt
  rw [hname first hfirst, hname second hsecond]
  exact compare_lt_iff_lt.mp hlt

end GroupStore

end InventorySearch
