import Mathlib.Data.List.Forall2

/-! When a computation that may refuse its input succeeds: a chain of steps succeeds when each step
does, and a list is read when each of its items is. -/

namespace InventorySearch

variable {ε ε' α β : Type}

theorem map_eq_ok_iff {f : α → β} {result : Except ε α} {b : β} :
    result.map f = .ok b ↔ ∃ a, result = .ok a ∧ f a = b := by
  cases result <;> simp [Except.map]

theorem mapError_eq_ok_iff {f : ε → ε'} {result : Except ε α} {a : α} :
    result.mapError f = .ok a ↔ result = .ok a := by
  cases result <;> simp [Except.mapError]

theorem bind_eq_ok_iff {result : Except ε α} {next : α → Except ε β} {b : β} :
    result >>= next = .ok b ↔ ∃ a, result = .ok a ∧ next a = .ok b := by
  cases result <;> simp [bind, Except.bind]

theorem exists_ok_iff_toBool {result : Except ε α} : (∃ a, result = .ok a) ↔ result.toBool = true := by
  cases result <;> simp [Except.toBool]

/-- A list is read when each of its items is, and the results stand in the places of the items. -/
theorem mapM_eq_ok_iff {f : α → Except ε β} {items : List α} {out : List β} :
    items.mapM f = .ok out ↔ List.Forall₂ (fun a b => f a = .ok b) items out := by
  induction items generalizing out with
  | nil => cases out <;> simp [pure, Except.pure]
  | cons a items ih =>
      rw [List.mapM_cons, bind_eq_ok_iff]
      constructor
      · rintro ⟨b, hb, hrest⟩
        obtain ⟨bs, hbs, hout⟩ := bind_eq_ok_iff.mp hrest
        cases hout
        exact List.Forall₂.cons hb (ih.mp hbs)
      · intro h
        obtain ⟨b, bs, hb, hbs, rfl⟩ := List.forall₂_cons_left_iff.mp h
        exact ⟨b, hb, bind_eq_ok_iff.mpr ⟨bs, ih.mpr hbs, rfl⟩⟩

/-- A list is refused for the first of its items that is refused. -/
theorem mapM_eq_error_iff {f : α → Except ε β} {items : List α} {e : ε} :
    items.mapM f = .error e ↔
      ∃ (i : Nat) (a : α), items[i]? = some a ∧ f a = .error e ∧ ∀ j < i, ∀ b, items[j]? = some b → ∃ c, f b = .ok c := by
  induction items with
  | nil => simp [pure, Except.pure]
  | cons a items ih =>
      rw [List.mapM_cons]
      cases hfirst : f a with
      | error e' =>
          constructor
          · intro h
            cases h
            exact ⟨0, a, rfl, hfirst, fun j hj => absurd hj (Nat.not_lt_zero j)⟩
          · rintro ⟨i, b, hb, hfault, hbefore⟩
            cases i with
            | zero =>
                cases hb
                rw [hfirst] at hfault
                cases hfault
                rfl
            | succ i =>
                obtain ⟨c, hc⟩ := hbefore 0 (Nat.succ_pos i) a rfl
                rw [hfirst] at hc
                cases hc
      | ok c =>
          have hrest : (Except.ok c >>= fun b => items.mapM f >>= fun bs => pure (b :: bs)) = Except.error e ↔
              items.mapM f = .error e := by
            cases items.mapM f <;> simp [bind, Except.bind, pure, Except.pure]
          rw [hrest, ih]
          constructor
          · rintro ⟨i, b, hb, hfault, hbefore⟩
            refine ⟨i + 1, b, hb, hfault, fun j hj d hd => ?_⟩
            cases j with
            | zero =>
                cases hd
                exact ⟨c, hfirst⟩
            | succ j => exact hbefore j (Nat.lt_of_succ_lt_succ hj) d hd
          · rintro ⟨i, b, hb, hfault, hbefore⟩
            cases i with
            | zero =>
                cases hb
                rw [hfirst] at hfault
                cases hfault
            | succ i => exact ⟨i, b, hb, hfault, fun j hj d hd => hbefore (j + 1) (Nat.succ_lt_succ hj) d hd⟩

theorem exists_map_eq_ok_iff {f : α → β} {result : Except ε α} :
    (∃ b, result.map f = .ok b) ↔ ∃ a, result = .ok a := by
  cases result <;> simp [Except.map]

/-- Whether a list is read does not depend on the order of its items. -/
theorem exists_mapM_eq_ok_iff {f : α → Except ε β} {items : List α} :
    (∃ out, items.mapM f = .ok out) ↔ ∀ a ∈ items, ∃ b, f a = .ok b := by
  simp only [mapM_eq_ok_iff]
  induction items with
  | nil => simp
  | cons a items ih =>
      rw [List.forall_mem_cons, ← ih]
      constructor
      · rintro ⟨out, h⟩
        obtain ⟨b, bs, hb, hbs, rfl⟩ := List.forall₂_cons_left_iff.mp h
        exact ⟨⟨b, hb⟩, bs, hbs⟩
      · rintro ⟨⟨b, hb⟩, bs, hbs⟩
        exact ⟨b :: bs, List.Forall₂.cons hb hbs⟩

theorem exists_of_mem_mapM {f : α → Except ε β} {items : List α} {out : List β}
    (h : items.mapM f = .ok out) {b : β} (hb : b ∈ out) : ∃ a ∈ items, f a = .ok b := by
  rw [mapM_eq_ok_iff] at h
  induction h with
  | nil => cases hb
  | @cons a b' items out hhead _ ih =>
      rcases List.mem_cons.mp hb with rfl | hb
      · exact ⟨a, List.mem_cons_self, hhead⟩
      · obtain ⟨a', ha', hread⟩ := ih hb
        exact ⟨a', List.mem_cons_of_mem _ ha', hread⟩

/-- Checking a list succeeds when each of its items passes. -/
theorem forM_eq_ok_iff {check : α → Except ε Unit} {items : List α} :
    items.forM check = .ok () ↔ ∀ a ∈ items, check a = .ok () := by
  induction items with
  | nil => simp [pure, Except.pure]
  | cons a items ih =>
      show (check a >>= fun _ => items.forM check) = .ok () ↔ _
      rw [bind_eq_ok_iff, List.forall_mem_cons, ← ih]
      exact ⟨fun ⟨_, hfirst, hrest⟩ => ⟨hfirst, hrest⟩, fun ⟨hfirst, hrest⟩ => ⟨(), hfirst, hrest⟩⟩

end InventorySearch
