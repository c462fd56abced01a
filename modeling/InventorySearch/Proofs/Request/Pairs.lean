import InventorySearch.Request.Reading

/-! The canonical parameters of the criteria as a table that is read by name. A name is a word with the
number of a criterion behind it, and such names are equal only when their words and their numbers are. -/

namespace InventorySearch

/-! ### Words and numbered names -/

/-- A text without a digit. -/
def IsWord (s : String) : Prop := ∀ c ∈ s.toList, c.isDigit = false

instance (s : String) : Decidable (IsWord s) := List.decidableBAll _ _

theorem toList_numbered (word : String) (n : Nat) :
    (word ++ toString n).toList = word.toList ++ Nat.toDigits 10 n := by
  rw [String.toList_append, Nat.toString_eq_repr, Nat.toList_repr]

theorem takeWhile_numbered {word : String} (hword : IsWord word) (n : Nat) :
    (word ++ toString n).toList.takeWhile (fun c => !c.isDigit) = word.toList := by
  have hletters : ∀ c ∈ word.toList, (!c.isDigit) = true := fun c hc => by rw [hword c hc]; rfl
  have hdigits : (Nat.toDigits 10 n).takeWhile (fun c => !c.isDigit) = [] := by
    cases hlist : Nat.toDigits 10 n with
    | nil => rfl
    | cons c rest =>
        have hc : c.isDigit = true :=
          Nat.isDigit_of_mem_toDigits (by decide) (by decide) (hlist ▸ List.mem_cons_self)
        simp [hc]
  rw [toList_numbered, List.takeWhile_append_of_pos hletters, hdigits, List.append_nil]

/-- A numbered name determines its word and its number. -/
theorem numbered_inj {a b : String} (ha : IsWord a) (hb : IsWord b) {m n : Nat} :
    a ++ toString m = b ++ toString n ↔ a = b ∧ m = n := by
  constructor
  · intro h
    have hwords : a.toList = b.toList := by rw [← takeWhile_numbered ha m, h, takeWhile_numbered hb n]
    have hlists := congrArg String.toList h
    rw [toList_numbered, toList_numbered, hwords] at hlists
    have hdigits := congrArg (fun cs => Nat.ofDigitChars 10 cs 0) (List.append_cancel_left hlists)
    simp only [Nat.ofDigitChars_ten_toDigits] at hdigits
    exact ⟨String.toList_inj.mp hwords, hdigits⟩
  · rintro ⟨rfl, rfl⟩
    rfl

theorem numbered_ne_word (a : String) {b : String} (hb : IsWord b) (n : Nat) : a ++ toString n ≠ b := by
  rintro rfl
  obtain ⟨c, hc⟩ := List.exists_mem_of_ne_nil _ (Nat.toDigits_ne_nil (n := n) (b := 10))
  have hletter : c.isDigit = false := hb c (toList_numbered a n ▸ List.mem_append_right _ hc)
  rw [Nat.isDigit_of_mem_toDigits (by decide) (by decide) hc] at hletter
  cases hletter

/-! ### The parameters of the criteria -/

/-- The words and the values of the parameters of a criterion. -/
def Criterion.settings (c : Criterion) : List (String × String) :=
  [("filter", c.key), ("search", c.raw), ("operator", code c.operator)] ++
    if c.invert then [("invert", "1")] else []

theorem isWord_of_mem_settings {c : Criterion} {setting : String × String} (h : setting ∈ c.settings) :
    IsWord setting.1 := by
  have hwords : ∀ invert : Bool, ∀ word ∈ ["filter", "search", "operator"] ++
      if invert then ["invert"] else [], IsWord word := by decide
  have hnames : c.settings.map (·.1) = ["filter", "search", "operator"] ++
      if c.invert then ["invert"] else [] := by
    unfold Criterion.settings
    cases c.invert <;> rfl
  exact hwords c.invert _ (hnames ▸ List.mem_map_of_mem h)

namespace SearchRequest

theorem criterionPairs_eq (n : Nat) (c : Criterion) :
    criterionPairs n c = c.settings.map fun setting => (setting.1 ++ toString n, setting.2) := by
  unfold criterionPairs Criterion.settings
  cases c.invert <;> rfl

/-- Of the numbered settings only those with the right number can have the name. -/
theorem lookup_numbered {settings : List (String × String)} (hsettings : ∀ setting ∈ settings, IsWord setting.1)
    {word : String} (hword : IsWord word) (m n : Nat) :
    (settings.map fun setting => (setting.1 ++ toString m, setting.2)).lookup (word ++ toString n) =
      if m = n then settings.lookup word else none := by
  induction settings with
  | nil => simp
  | cons setting settings ih =>
      obtain ⟨name, value⟩ := setting
      have hname : IsWord name := hsettings _ List.mem_cons_self
      have hbeq : (word ++ toString n == name ++ toString m) = (decide (m = n) && (word == name)) := by
        rw [Bool.eq_iff_iff]
        simp only [beq_iff_eq, numbered_inj hword hname, Bool.and_eq_true, decide_eq_true_iff]
        exact ⟨fun ⟨hwords, hnumbers⟩ => ⟨hnumbers.symm, hwords⟩,
          fun ⟨hnumbers, hwords⟩ => ⟨hwords, hnumbers.symm⟩⟩
      rw [List.map_cons, List.lookup_cons, hbeq, ih fun s hs => hsettings s (List.mem_cons_of_mem _ hs)]
      by_cases hnumber : m = n
      · simp [hnumber, List.lookup_cons]
      · simp [hnumber]

/-- A numbered name is looked up in the settings of the criterion with that number. -/
theorem lookup_criteriaPairs {word : String} (hword : IsWord word) (criteria : List Criterion) (m n : Nat) :
    (criteriaPairs m criteria).lookup (word ++ toString n) =
      if m ≤ n then criteria[n - m]?.bind fun c => c.settings.lookup word else none := by
  induction criteria generalizing m with
  | nil => simp [criteriaPairs]
  | cons c criteria ih =>
      rw [criteriaPairs, List.lookup_append, criterionPairs_eq, ih,
        lookup_numbered (fun _ => isWord_of_mem_settings) hword]
      rcases Nat.lt_trichotomy m n with hlt | rfl | hgt
      · have hindex : n - m = n - (m + 1) + 1 := by omega
        simp [Nat.ne_of_lt hlt, Nat.le_of_lt hlt, Nat.succ_le_of_lt hlt, hindex]
      · have hnot : ¬m + 1 ≤ m := by omega
        simp [hnot]
      · have hnot : ¬m ≤ n := by omega
        have hnext : ¬m + 1 ≤ n := by omega
        simp [Nat.ne_of_gt hgt, hnot, hnext]

theorem lookup_criteriaPairs_of_isWord {word : String} (hword : IsWord word) (criteria : List Criterion)
    (m : Nat) : (criteriaPairs m criteria).lookup word = none := by
  induction criteria generalizing m with
  | nil => rfl
  | cons c criteria ih =>
      rw [criteriaPairs, List.lookup_append, ih, Option.or_none, List.lookup_eq_none_iff, criterionPairs_eq]
      rintro pair hpair
      obtain ⟨setting, _, rfl⟩ := List.mem_map.mp hpair
      simpa using Ne.symm (numbered_ne_word setting.1 hword m)

theorem length_le_length_criteriaPairs (criteria : List Criterion) (m : Nat) :
    criteria.length ≤ (criteriaPairs m criteria).length := by
  induction criteria generalizing m with
  | nil => exact Nat.le_refl 0
  | cons c criteria ih =>
      have hrest := ih (m + 1)
      simp only [criteriaPairs, List.length_append, List.length_cons, criterionPairs]
      omega

end SearchRequest

end InventorySearch
