import InventorySearch.Proofs.Request.Pairs
import InventorySearch.Proofs.Request.WellFormed
import Mathlib.Data.List.Nodup
import Mathlib.Data.Nat.Find
import Mathlib.Order.Bounds.Defs

/-! Criteria are read from their own parameters only. The scan of the numbered filters is bounded by the number
of parameters, and that bound cuts nothing off: so few parameters cannot name more numbers, and the scan ends at
the first gap. Two submissions with the same parameters of criteria up to the gap therefore have the same criteria,
whatever presentation they ask for. -/

namespace InventorySearch

/-- The names of the parameters that are not about criteria. -/
def presentationNames : List String := ["columns", "order", "direction", "jumpto", "distinct", "customSearch"]

theorem numbered_not_mem_presentationNames (word : String) (n : Nat) : word ++ toString n ∉ presentationNames := by
  have hwords : ∀ name ∈ presentationNames, IsWord name := by decide
  exact fun hmem => numbered_ne_word word (hwords _ hmem) n rfl

/-! ### The names of the parameters of criteria -/

/-- The words that the parameters of criteria are named with. -/
def criterionWords : List String := ["filter", "search", "operator", "invert"]

/-- The parameter names of the singular form and of the numbers up to a limit. -/
def IsCriterionName (limit : Nat) (name : String) : Prop :=
  ∃ word ∈ criterionWords, name = word ∨ ∃ k, 1 ≤ k ∧ k ≤ limit ∧ name = word ++ toString k

/-- No word is the beginning of another one, so that a name has one reading only. -/
theorem criterionWords_append_inj {a b x y : String} (ha : a ∈ criterionWords) (hb : b ∈ criterionWords)
    (h : a ++ x = b ++ y) : a = b ∧ x = y := by
  have hdistinct : ∀ a ∈ criterionWords, ∀ b ∈ criterionWords, a.toList <+: b.toList → a = b := by decide
  have hlists := congrArg String.toList h
  rw [String.toList_append, String.toList_append] at hlists
  have hword : a = b := by
    rcases List.prefix_or_prefix_of_prefix (List.prefix_append a.toList x.toList)
      (hlists ▸ List.prefix_append b.toList y.toList) with hprefix | hprefix
    · exact hdistinct a ha b hb hprefix
    · exact (hdistinct b hb a ha hprefix).symm
  subst hword
  exact ⟨rfl, String.toList_inj.mp (List.append_cancel_left hlists)⟩

/-- Only the number itself, written out without a zero in front, makes a name out of a word. -/
theorem isCriterionName_append_iff {word suffix : String} (hword : word ∈ criterionWords) {limit : Nat} :
    IsCriterionName limit (word ++ suffix) ↔
      suffix = "" ∨ ∃ k, 1 ≤ k ∧ k ≤ limit ∧ suffix = toString k := by
  constructor
  · rintro ⟨other, hother, heq | ⟨k, hk, hlimit, heq⟩⟩
    · rw [← String.append_empty (s := other)] at heq
      exact Or.inl (criterionWords_append_inj hword hother heq).2
    · exact Or.inr ⟨k, hk, hlimit, (criterionWords_append_inj hword hother heq).2⟩
  · rintro (rfl | ⟨k, hk, hlimit, rfl⟩)
    · exact ⟨word, hword, Or.inl String.append_empty⟩
    · exact ⟨word, hword, Or.inr ⟨k, hk, hlimit, rfl⟩⟩

theorem IsCriterionName.not_mem_presentationNames {limit : Nat} {name : String} (h : IsCriterionName limit name) :
    name ∉ presentationNames := by
  obtain ⟨word, hword, rfl | ⟨k, _, _, rfl⟩⟩ := h
  · have hwords : ∀ word ∈ criterionWords, word ∉ presentationNames := by decide
    exact hwords _ hword
  · exact numbered_not_mem_presentationNames word k

/-! ### The bound of the scan -/

/-- A longer scan finds nothing more when a number is missing within the shorter one or right behind it. -/
theorem takeWhile_range'_of_le {present : Nat → Bool} {limit bound : Nat}
    (hgap : ∃ n ∈ List.range' 1 (limit + 1), present n = false) (hle : limit ≤ bound) :
    (List.range' 1 bound).takeWhile present = (List.range' 1 limit).takeWhile present := by
  obtain ⟨more, rfl⟩ := Nat.exists_eq_add_of_le hle
  rw [← List.range'_append, List.takeWhile_append]
  split_ifs with hwhole
  · -- Everything within the shorter scan is there, so what is missing is the number behind it.
    have hall : (List.range' 1 limit).takeWhile present = List.range' 1 limit :=
      (List.takeWhile_prefix present).eq_of_length hwhole
    have hnext : present (1 + limit) = false := by
      obtain ⟨n, hn, habsent⟩ := hgap
      rw [List.range'_1_concat] at hn
      rcases List.mem_append.mp hn with hn | hn
      · rw [List.takeWhile_eq_self_iff.mp hall n hn] at habsent
        cases habsent
      · rwa [← List.mem_singleton.mp hn]
    have hstop : (List.range' (1 + 1 * limit) more).takeWhile present = [] := by
      cases more with
      | zero => rfl
      | succ more => rw [Nat.one_mul, List.range'_succ, List.takeWhile_cons_of_neg (by simp [hnext])]
    rw [hall, hstop, List.append_nil]
  · rfl

namespace Params

variable {p q : Params}

/-- So few parameters cannot name more numbers. -/
theorem exists_missing_number (p : Params) :
    ∃ n ∈ List.range' 1 (p.pairs.length + 1), p.nonEmpty? ("filter" ++ toString n) = none := by
  by_contra hall
  push Not at hall
  have hinj : Function.Injective fun n : Nat => "filter" ++ toString n := by
    intro m n heq
    have hword : IsWord "filter" := by decide
    exact ((numbered_inj hword hword).mp heq).2
  have hsubset : (List.range' 1 (p.pairs.length + 1)).map (fun n => "filter" ++ toString n) ⊆ p.pairs.map (·.1) := by
    intro name hname
    obtain ⟨n, hn, rfl⟩ := List.mem_map.mp hname
    obtain ⟨filter, hfilter⟩ := Option.ne_none_iff_exists'.mp (hall n hn)
    obtain ⟨before, after, hpairs, _⟩ := List.lookup_eq_some_iff.mp (nonEmpty?_eq_some_iff.mp hfilter).1
    rw [hpairs]
    exact List.mem_map_of_mem (List.mem_append_right before List.mem_cons_self)
  have hlength := (List.Nodup.map hinj (List.nodup_range' 1)).length_le_of_subset hsubset
  simp only [List.length_map, List.length_range'] at hlength
  omega

/-! ### What is read under a suffix -/

/-- What is read from the parameters with a suffix: nothing without a filter, else a criterion or what is wrong
with it. -/
def read? (p : Params) (catalog : Catalog) (suffix : String) : Option (Except SearchError Criterion) :=
  (p.nonEmpty? ("filter" ++ suffix)).map (p.criterion catalog (.suffixed suffix))

/-- What is read at a number. -/
def numbered? (p : Params) (catalog : Catalog) (k : Nat) : Option (Except SearchError Criterion) :=
  p.read? catalog (toString k)

theorem numbered?_eq_none_iff {catalog : Catalog} {k : Nat} :
    p.numbered? catalog k = none ↔ p.nonEmpty? ("filter" ++ toString k) = none := by
  rw [numbered?, read?, Option.map_eq_none_iff]

theorem read?_of_filter {suffix filter : String} (h : p.nonEmpty? ("filter" ++ suffix) = some filter)
    (catalog : Catalog) : p.read? catalog suffix = some (p.criterion catalog (.suffixed suffix) filter) := by
  rw [read?, h, Option.map_some]

theorem read?_of_missing {suffix : String} (h : p.nonEmpty? ("filter" ++ suffix) = none) (catalog : Catalog) :
    p.read? catalog suffix = none := by
  rw [read?, h, Option.map_none]

theorem criterion_congr {suffix : String}
    (h : ∀ word ∈ ["search", "operator", "invert"], p.first? (word ++ suffix) = q.first? (word ++ suffix))
    (catalog : Catalog) (filter : String) :
    p.criterion catalog (.suffixed suffix) filter = q.criterion catalog (.suffixed suffix) filter := by
  simp only [criterion, CriterionParams.suffixed, nonEmpty?, h "search" (by decide), h "operator" (by decide),
    h "invert" (by decide)]

/-- What is read under a suffix depends on four parameters only. -/
theorem read?_congr {suffix : String}
    (h : ∀ word ∈ criterionWords, p.first? (word ++ suffix) = q.first? (word ++ suffix)) (catalog : Catalog) :
    p.read? catalog suffix = q.read? catalog suffix := by
  have hcriterion : p.criterion catalog (.suffixed suffix) = q.criterion catalog (.suffixed suffix) :=
    funext (criterion_congr (fun word hword => h word (List.mem_cons_of_mem _ hword)) catalog)
  rw [read?, read?, nonEmpty?, nonEmpty?, h "filter" (by decide), hcriterion]

/-- A criterion of the singular form is the only one. -/
theorem criteria_of_singular {catalog : Catalog} {result : Except SearchError Criterion}
    (h : p.read? catalog "" = some result) : p.criteria catalog = result.map ([·]) := by
  obtain ⟨filter, hfilter, rfl⟩ := Option.map_eq_some_iff.mp h
  have hgiven : p.nonEmpty? CriterionParams.singular.filter = some filter := hfilter
  rw [criteria, hgiven]
  show (p.criterion catalog .singular filter >>= fun c => pure [c]) = (p.criterion catalog .singular filter).map _
  cases p.criterion catalog .singular filter <;> rfl

/-! ### Up to the first gap -/

/-- A number is the first gap when it is the least one from one on whose filter is missing or empty. -/
def IsGap (p : Params) (n : Nat) : Prop := IsLeast {k | 1 ≤ k ∧ p.nonEmpty? ("filter" ++ toString k) = none} n

theorem exists_isGap (p : Params) : ∃ n, p.IsGap n := by
  obtain ⟨m, hm, hmissing⟩ := p.exists_missing_number
  have hsome : ∃ k, 1 ≤ k ∧ p.nonEmpty? ("filter" ++ toString k) = none := ⟨m, (List.mem_range'_1.mp hm).1, hmissing⟩
  exact ⟨Nat.find hsome, Nat.find_spec hsome, fun k hk => Nat.find_min' hsome hk⟩

theorem isGap_iff {n : Nat} :
    p.IsGap n ↔ 1 ≤ n ∧ p.nonEmpty? ("filter" ++ toString n) = none ∧
      ∀ k ∈ List.range' 1 (n - 1), (p.nonEmpty? ("filter" ++ toString k)).isSome = true := by
  constructor
  · intro hgap
    refine ⟨hgap.1.1, hgap.1.2, fun k hk => Option.isSome_iff_ne_none.mpr fun hmissing => ?_⟩
    obtain ⟨hfirst, hlast⟩ := List.mem_range'_1.mp hk
    have hle : n ≤ k := hgap.2 ⟨hfirst, hmissing⟩
    omega
  · rintro ⟨hpos, hmissing, hpresent⟩
    refine ⟨⟨hpos, hmissing⟩, fun k hk => ?_⟩
    obtain ⟨hfirst, hnone⟩ := hk
    by_contra hlt
    have hsome := hpresent k (List.mem_range'_1.mpr (by omega))
    rw [hnone] at hsome
    cases hsome

namespace IsGap

variable {n : Nat} (hgap : p.IsGap n)
include hgap

theorem pos : 1 ≤ n := hgap.1.1

theorem le_length : n ≤ p.pairs.length + 1 := by
  obtain ⟨m, hm, hmissing⟩ := p.exists_missing_number
  obtain ⟨hone, hlimit⟩ := List.mem_range'_1.mp hm
  have hle : n ≤ m := hgap.2 ⟨hone, hmissing⟩
  omega

theorem numbered?_eq_none (catalog : Catalog) : p.numbered? catalog n = none := numbered?_eq_none_iff.mpr hgap.1.2

/-- In front of the gap something is read at every number. -/
theorem exists_numbered (catalog : Catalog) {k : Nat} (hk : 1 ≤ k) (hlt : k < n) :
    ∃ result, p.numbered? catalog k = some result := by
  apply Option.ne_none_iff_exists'.mp
  intro hmissing
  have hle : n ≤ k := hgap.2 ⟨hk, numbered?_eq_none_iff.mp hmissing⟩
  omega

/-- The numbered criteria are those in front of the gap. -/
theorem criteria_eq {catalog : Catalog} (hsingular : p.read? catalog "" = none) :
    p.criteria catalog = ((List.range' 1 (n - 1)).filterMap (p.numbered? catalog)).mapM id := by
  have hone := hgap.pos
  have hbound := hgap.le_length
  have hgapIn : ∃ m ∈ List.range' 1 (n - 1 + 1), (p.nonEmpty? ("filter" ++ toString m)).isSome = false :=
    ⟨n, List.mem_range'_1.mpr (by omega), by rw [hgap.1.2]; rfl⟩
  have hnumbers : (List.range' 1 p.pairs.length).takeWhile (fun k => (p.nonEmpty? ("filter" ++ toString k)).isSome) =
      List.range' 1 (n - 1) := by
    rw [takeWhile_range'_of_le hgapIn (by omega), List.takeWhile_eq_self_iff]
    intro k hk
    obtain ⟨hfirst, hlast⟩ := List.mem_range'_1.mp hk
    obtain ⟨result, hresult⟩ := hgap.exists_numbered catalog hfirst (by omega)
    obtain ⟨filter, hfilter, _⟩ := Option.map_eq_some_iff.mp hresult
    rw [hfilter, Option.isSome_some]
  have hmissing : p.nonEmpty? CriterionParams.singular.filter = none := Option.map_eq_none_iff.mp hsingular
  have hread : (List.range' 1 (n - 1)).filterMap (p.numbered? catalog) =
      ((List.range' 1 (n - 1)).filterMap fun k =>
        (p.nonEmpty? ("filter" ++ toString k)).map fun filter => (k, filter)).map
        fun entry => p.criterion catalog (.indexed entry.1) entry.2 := by
    rw [List.map_filterMap]
    apply List.filterMap_congr
    intro k _
    rw [Option.map_map]
    rfl
  have hfilters : p.indexedFilters = (List.range' 1 (n - 1)).filterMap fun k =>
      (p.nonEmpty? ("filter" ++ toString k)).map fun filter => (k, filter) := congrArg (List.filterMap _) hnumbers
  rw [criteria, hmissing, hfilters, hread, List.mapM_map]
  rfl

/-- Criteria are told by what is read under no suffix and at the numbers up to the gap. -/
theorem criteria_congr {catalog : Catalog} (hsingular : p.read? catalog "" = q.read? catalog "")
    (hnumbered : ∀ k, 1 ≤ k → k ≤ n → p.numbered? catalog k = q.numbered? catalog k) :
    p.criteria catalog = q.criteria catalog := by
  have hgap' : q.IsGap n := by
    refine ⟨⟨hgap.pos, ?_⟩, fun k ⟨hk, hmissing⟩ => ?_⟩
    · exact numbered?_eq_none_iff.mp (hnumbered n hgap.pos (Nat.le_refl n) ▸ hgap.numbered?_eq_none catalog)
    · by_contra hlt
      have hnone := hnumbered k hk (by omega) ▸ numbered?_eq_none_iff.mpr hmissing
      exact hlt (hgap.2 ⟨hk, numbered?_eq_none_iff.mp hnone⟩)
  cases hread : p.read? catalog "" with
  | some result => rw [criteria_of_singular hread, criteria_of_singular (hsingular ▸ hread)]
  | none =>
      rw [hgap.criteria_eq hread, hgap'.criteria_eq (hsingular ▸ hread)]
      congr 1
      apply List.filterMap_congr
      intro k hk
      obtain ⟨hfirst, hlast⟩ := List.mem_range'_1.mp hk
      exact hnumbered k hfirst (by omega)

end IsGap

/-! ### What criteria depend on -/

/-- Two submissions have the same first values for the names of criteria up to a limit. -/
def AgreeUpTo (limit : Nat) (p q : Params) : Prop :=
  ∀ name, IsCriterionName limit name → p.first? name = q.first? name

/-- Criteria depend on the first values of their own names up to the gap, and on nothing else. -/
theorem AgreeUpTo.criteria_eq {n : Nat} (h : AgreeUpTo n p q) (hgap : p.IsGap n) (catalog : Catalog) :
    p.criteria catalog = q.criteria catalog := by
  apply hgap.criteria_congr
  · exact read?_congr (fun word hword => h _ ((isCriterionName_append_iff hword).mpr (Or.inl rfl))) catalog
  · intro k hk hle
    apply read?_congr
    exact fun word hword => h _ ((isCriterionName_append_iff hword).mpr (Or.inr ⟨k, hk, hle, rfl⟩))

theorem first?_append_cons (before after : List (String × String)) (name value other : String) :
    first? ⟨before ++ (name, value) :: after⟩ other =
      (before.lookup other).or (if other = name then some value else after.lookup other) := by
  rw [first?, List.lookup_append, List.lookup_cons]
  by_cases heq : other = name
  · simp [heq]
  · rw [beq_false_of_ne heq, if_neg heq]

/-- Two submissions hold the same parameters but for the presentation. -/
def SameCriteria (p q : Params) : Prop := ∀ name, name ∉ presentationNames → p.first? name = q.first? name

/-- What is submitted about the presentation does not influence the criteria. -/
theorem SameCriteria.criteria_eq (h : p.SameCriteria q) (catalog : Catalog) :
    p.criteria catalog = q.criteria catalog := by
  obtain ⟨n, hgap⟩ := p.exists_isGap
  exact AgreeUpTo.criteria_eq (fun name hname => h name hname.not_mem_presentationNames) hgap catalog

end Params

end InventorySearch
