import InventorySearch.Proofs.Request.Scan
import Mathlib.Data.Option.Basic
import Mathlib.Logic.Relation

/-! Numbered criteria are read one after another up to the first gap. Reading goes on to the next number in every
turn, so that it comes to an end there, with all criteria in front of the gap or with what is wrong at the least
number. In which order the parameters stand, what is given a second time and whatever has a name that is not asked
for makes no difference. -/

namespace InventorySearch.Params

variable {p q : Params} {catalog : Catalog} {n : Nat}

/-! ### The loop -/

/-- Where reading the numbered criteria stands: the next number, and what was read before it. -/
structure Scan where
  number : Nat
  found : List Criterion

namespace Scan

def start : Scan := ⟨1, []⟩

/-- One turn of reading: where it stands next, or the answer. -/
def step (p : Params) (catalog : Catalog) (s : Scan) : Scan ⊕ Except SearchError (List Criterion) :=
  match p.numbered? catalog s.number with
  | none => .inr (.ok s.found)
  | some (.error e) => .inr (.error e)
  | some (.ok c) => .inl ⟨s.number + 1, s.found ++ [c]⟩

/-- Where reading stands after a number of turns, or the answer once there is one. -/
def after (p : Params) (catalog : Catalog) (s : Scan) : Nat → Scan ⊕ Except SearchError (List Criterion)
  | 0 => .inl s
  | turns + 1 =>
    match s.step p catalog with
    | .inl next => next.after p catalog turns
    | .inr answer => .inr answer

end Scan

/-- Reading comes to an end at the gap, which it goes to number by number. -/
theorem IsGap.after_eq (hgap : p.IsGap n) (catalog : Catalog) {more : Nat} (s : Scan) (hfirst : 1 ≤ s.number)
    (hmore : s.number + more = n) :
    s.after p catalog (more + 1) =
      .inr ((((List.range' s.number more).filterMap (p.numbered? catalog)).mapM id).map (s.found ++ ·)) := by
  -- The induction is on the numbers in front of the gap that are still to be read.
  induction more generalizing s with
  | zero =>
      have hnone : p.numbered? catalog s.number = none := by
        rw [← hgap.numbered?_eq_none catalog, ← hmore, Nat.add_zero]
      simp [Scan.after, Scan.step, hnone, pure, Except.pure, Except.map]
  | succ more ih =>
      obtain ⟨result, hresult⟩ := hgap.exists_numbered catalog hfirst (by omega : s.number < n)
      rw [List.range'_succ, List.filterMap_cons_some hresult, List.mapM_cons, Scan.after, Scan.step, hresult]
      cases result with
      | error e => rfl
      | ok c =>
          have hrest := ih ⟨s.number + 1, s.found ++ [c]⟩ (Nat.le_add_left 1 s.number) (by simp only; omega)
          simp only [hrest]
          cases ((List.range' (s.number + 1) more).filterMap (p.numbered? catalog)).mapM id with
          | error e => rfl
          | ok found => simp [bind, Except.bind, pure, Except.pure, Except.map]

theorem IsGap.after_start (hgap : p.IsGap n) (hsingular : p.read? catalog "" = none) :
    Scan.start.after p catalog n = .inr (p.criteria catalog) := by
  have hpos := hgap.pos
  have hturns : n - 1 + 1 = n := Nat.sub_add_cancel hpos
  have hrun := hgap.after_eq catalog .start (Nat.le_refl 1) (by show 1 + (n - 1) = n; omega)
  rw [hturns, Scan.start] at hrun
  rw [Scan.start, hrun, hgap.criteria_eq hsingular]
  simp only [List.nil_append]
  cases ((List.range' 1 (n - 1)).filterMap (p.numbered? catalog)).mapM id <;> rfl

/-! ### The answer -/

/-- What is read in front of the gap, place by place. -/
theorem IsGap.map_numbered? (hgap : p.IsGap n) (catalog : Catalog) :
    (List.range' 1 (n - 1)).map (p.numbered? catalog) =
      ((List.range' 1 (n - 1)).filterMap (p.numbered? catalog)).map some := by
  rw [List.map_filterMap, ← List.filterMap_eq_map]
  apply List.filterMap_congr
  intro k hk
  obtain ⟨hfirst, hlast⟩ := List.mem_range'_1.mp hk
  obtain ⟨result, hresult⟩ := hgap.exists_numbered catalog hfirst (by omega)
  rw [Function.comp_apply, hresult, Option.map_some]

theorem IsGap.getElem?_eq_some_iff (hgap : p.IsGap n) (catalog : Catalog) {i : Nat}
    {result : Except SearchError Criterion} :
    ((List.range' 1 (n - 1)).filterMap (p.numbered? catalog))[i]? = some result ↔
      i + 1 < n ∧ p.numbered? catalog (i + 1) = some result := by
  have hplaces : ((List.range' 1 (n - 1)).map (p.numbered? catalog))[i]? =
      (((List.range' 1 (n - 1)).filterMap (p.numbered? catalog))[i]?).map some := by
    rw [hgap.map_numbered?, List.getElem?_map]
  rw [← (Option.map_injective (Option.some_injective _)).eq_iff, ← hplaces, List.getElem?_map]
  by_cases hlt : i + 1 < n
  · rw [List.getElem?_range' (by omega), Nat.one_mul, Nat.add_comm 1 i]
    simp [hlt]
  · rw [List.getElem?_eq_none (by rw [List.length_range']; omega)]
    simp [hlt]

theorem IsGap.criteria_eq_ok_iff (hgap : p.IsGap n) (hsingular : p.read? catalog "" = none)
    {criteria : List Criterion} :
    p.criteria catalog = .ok criteria ↔
      (List.range' 1 (n - 1)).map (p.numbered? catalog) = criteria.map (some ∘ .ok) := by
  have hsome : Function.Injective (some : Except SearchError Criterion → Option (Except SearchError Criterion)) :=
    Option.some_injective _
  rw [hgap.criteria_eq hsingular, mapM_eq_ok_iff, hgap.map_numbered?, ← List.map_map, hsome.list_map.eq_iff,
    ← List.forall₂_eq_eq_eq, List.forall₂_map_right_iff]
  rfl

/-- A criterion has the number of its place. -/
theorem IsGap.numbered?_of_getElem? (hgap : p.IsGap n) (hsingular : p.read? catalog "" = none)
    {criteria : List Criterion} (h : p.criteria catalog = .ok criteria) {i : Nat} {c : Criterion}
    (hc : criteria[i]? = some c) : p.numbered? catalog (i + 1) = some (.ok c) := by
  have hplace : ((List.range' 1 (n - 1)).map (p.numbered? catalog))[i]? = some (some (.ok c)) := by
    rw [(hgap.criteria_eq_ok_iff hsingular).mp h, List.getElem?_map, hc]
    rfl
  rw [hgap.map_numbered?, List.getElem?_map] at hplace
  obtain ⟨result, hresult, hsome⟩ := Option.map_eq_some_iff.mp hplace
  cases hsome
  exact ((hgap.getElem?_eq_some_iff catalog).mp hresult).2

theorem IsGap.criteria_eq_error_iff (hgap : p.IsGap n) (hsingular : p.read? catalog "" = none)
    {e : SearchError} :
    p.criteria catalog = .error e ↔
      ∃ k, 1 ≤ k ∧ k < n ∧ p.numbered? catalog k = some (.error e) ∧
        ∀ j, 1 ≤ j → j < k → ∃ c, p.numbered? catalog j = some (.ok c) := by
  rw [hgap.criteria_eq hsingular, mapM_eq_error_iff]
  simp only [hgap.getElem?_eq_some_iff]
  constructor
  · rintro ⟨i, result, ⟨hlt, hresult⟩, rfl, hbefore⟩
    refine ⟨i + 1, Nat.le_add_left 1 i, hlt, hresult, fun j hj hji => ?_⟩
    obtain ⟨j, rfl⟩ := Nat.exists_eq_add_of_le' hj
    obtain ⟨earlier, hearlier⟩ := hgap.exists_numbered catalog hj (hji.trans hlt)
    obtain ⟨c, rfl⟩ := hbefore j (Nat.lt_of_succ_lt_succ hji) earlier ⟨hji.trans hlt, hearlier⟩
    exact ⟨c, hearlier⟩
  · rintro ⟨k, hk, hlt, hresult, hbefore⟩
    obtain ⟨i, rfl⟩ := Nat.exists_eq_add_of_le' hk
    refine ⟨i, .error e, ⟨hlt, hresult⟩, rfl, fun j hj earlier ⟨_, hearlier⟩ => ?_⟩
    obtain ⟨c, hc⟩ := hbefore (j + 1) (Nat.le_add_left 1 j) (Nat.succ_lt_succ hj)
    rw [hearlier] at hc
    exact ⟨c, Option.some.inj hc⟩

/-! ### Changes of no account -/

theorem AgreeUpTo.symm (h : AgreeUpTo n p q) : AgreeUpTo n q p := fun name hname => (h name hname).symm

/-- Changes to the parameters that do not show up to a limit: two parameters with different names change places, a
name that was given is given once more behind that, or there is one more parameter with a name that no criterion up
to the limit has. -/
inductive Change (limit : Nat) : Params → Params → Prop where
  | swap (before after : List (String × String)) (a b : String × String) (hne : a.1 ≠ b.1) :
      Change limit ⟨before ++ a :: b :: after⟩ ⟨before ++ b :: a :: after⟩
  | again (before after : List (String × String)) (name value : String) (hgiven : name ∈ before.map (·.1)) :
      Change limit ⟨before ++ after⟩ ⟨before ++ (name, value) :: after⟩
  | stray (before after : List (String × String)) (name value : String) (hstray : ¬IsCriterionName limit name) :
      Change limit ⟨before ++ after⟩ ⟨before ++ (name, value) :: after⟩

theorem Change.agreeUpTo (h : Change n p q) : AgreeUpTo n p q := by
  intro name hname
  cases h with
  | swap before after a b hne =>
      obtain ⟨a, x⟩ := a
      obtain ⟨b, y⟩ := b
      have horder : ((a, x) :: (b, y) :: after).lookup name = ((b, y) :: (a, x) :: after).lookup name := by
        by_cases ha : name = a
        · subst ha
          simp [List.lookup_cons, beq_false_of_ne hne]
        · simp [List.lookup_cons, beq_false_of_ne ha]
      rw [first?, first?, List.lookup_append, List.lookup_append, horder]
  | again before after given value hgiven =>
      rw [first?_append_cons, first?, List.lookup_append]
      by_cases heq : name = given
      · cases hfirst : before.lookup name with
        | some first => rfl
        | none =>
            obtain ⟨pair, hpair, hname⟩ := List.mem_map.mp hgiven
            have hother := List.lookup_eq_none_iff.mp hfirst pair hpair
            simp [heq, hname] at hother
      · rw [if_neg heq]
  | stray before after other value hstray =>
      have hne : name ≠ other := fun heq => hstray (heq ▸ hname)
      rw [first?_append_cons, if_neg hne, first?, List.lookup_append]

theorem agreeUpTo_of_changes (h : Relation.EqvGen (Change n) p q) : AgreeUpTo n p q := by
  induction h with
  | rel p q hchange => exact hchange.agreeUpTo
  | refl p => exact fun name _ => rfl
  | symm p q _ ih => exact ih.symm
  | trans p q r _ _ ih ih' => exact fun name hname => (ih name hname).trans (ih' name hname)

/-- How criteria are read. The one of the singular form wins, and is read from four parameters. Otherwise there is a
first gap, the least number from one on whose filter is missing or empty, and reading ends in the turn that meets it:
with the criteria of all numbers in front of the gap, in their order, when there is one at each of them, and else with
what is wrong at the least number at which something is. Nothing but the first values of the names of criteria up to
the gap plays a part, so that changes that do not show up to the gap make no difference; a number is part of such a
name only as it is written out. -/
theorem criteria_read_up_to_gap (p : Params) (catalog : Catalog) :
    (∃ n, p.IsGap n) ∧ ∀ n, p.IsGap n →
      (∀ filter, p.nonEmpty? "filter" = some filter →
        p.criteria catalog = (p.criterion catalog .singular filter).map ([·]) ∧
          ∀ q : Params, (∀ word ∈ criterionWords, p.first? word = q.first? word) →
            q.criteria catalog = p.criteria catalog) ∧
      (p.nonEmpty? "filter" = none →
        Scan.start.after p catalog n = .inr (p.criteria catalog) ∧
          (∀ criteria, p.criteria catalog = .ok criteria ↔
            (List.range' 1 (n - 1)).map (p.numbered? catalog) = criteria.map (some ∘ .ok)) ∧
          ∀ e, p.criteria catalog = .error e ↔
            ∃ k, 1 ≤ k ∧ k < n ∧ p.numbered? catalog k = some (.error e) ∧
              ∀ j, 1 ≤ j → j < k → ∃ c, p.numbered? catalog j = some (.ok c)) ∧
      (∀ q, AgreeUpTo n p q → q.criteria catalog = p.criteria catalog) ∧
      (∀ q, Relation.EqvGen (Change n) p q → q.criteria catalog = p.criteria catalog) ∧
      ∀ word ∈ criterionWords, ∀ suffix, IsCriterionName n (word ++ suffix) ↔
        suffix = "" ∨ ∃ k, 1 ≤ k ∧ k ≤ n ∧ suffix = toString k := by
  refine ⟨p.exists_isGap, fun n hgap => ⟨?singular, ?numbered, ?agree, ?change, ?names⟩⟩
  case singular =>
    intro filter hgiven
    have hread : p.read? catalog "" = some (p.criterion catalog .singular filter) := read?_of_filter hgiven catalog
    refine ⟨criteria_of_singular hread, fun q h => ?_⟩
    have hread' : q.read? catalog "" = some (p.criterion catalog .singular filter) := by
      rw [← hread]
      exact (read?_congr (by simpa only [String.append_empty] using h) catalog).symm
    rw [criteria_of_singular hread, criteria_of_singular hread']
  case numbered =>
    intro hmissing
    have hsingular : p.read? catalog "" = none := read?_of_missing hmissing catalog
    exact ⟨hgap.after_start hsingular, fun criteria => hgap.criteria_eq_ok_iff hsingular,
      fun e => hgap.criteria_eq_error_iff hsingular⟩
  case agree => exact fun q h => (h.criteria_eq hgap catalog).symm
  case change => exact fun q h => ((agreeUpTo_of_changes h).criteria_eq hgap catalog).symm
  case names => exact fun word hword suffix => isCriterionName_append_iff hword

/-- Two numbered criteria in an order of their own, and an empty third filter. -/
def twoNumbers : Params where
  pairs := [("search2", "2400"), ("filter1", "Name"), ("filter2", "CpuClock"), ("search1", "a"), ("filter3", "")]

theorem twoNumbers_read_up_to_gap :
    twoNumbers.IsGap 3 ∧ Scan.start.after twoNumbers .builtin 3 = .inr (twoNumbers.criteria .builtin) ∧
      twoNumbers.criteria .builtin =
        .ok [⟨"Name", .eq, "a", .text "a", false⟩, ⟨"CpuClock", .eq, "2400", .integer 2400, false⟩] ∧
      ∀ suffix ∈ ["10", "4", "02"],
        Params.criteria ⟨twoNumbers.pairs ++ [("filter" ++ suffix, "Nothing")]⟩ .builtin =
          twoNumbers.criteria .builtin := by
  have hgap : twoNumbers.IsGap 3 := by
    refine ⟨⟨by decide, by decide⟩, fun k ⟨hk, hmissing⟩ => ?_⟩
    by_contra hlt
    have hcases : k = 1 ∨ k = 2 := by omega
    rcases hcases with rfl | rfl
    · exact absurd hmissing (by decide)
    · exact absurd hmissing (by decide)
  obtain ⟨_, hread⟩ := criteria_read_up_to_gap twoNumbers .builtin
  obtain ⟨_, hnumbered, _, hchange, hnames⟩ := hread 3 hgap
  obtain ⟨hrun, hok, _⟩ := hnumbered (by decide)
  refine ⟨hgap, hrun, (hok _).mpr (by decide +kernel), fun suffix hsuffix => ?_⟩
  have hstray : ¬IsCriterionName 3 ("filter" ++ suffix) := by
    have hnumbers : ∀ k ≤ 3, toString k ∉ ["10", "4", "02"] := by decide
    rw [hnames "filter" (by decide)]
    rintro (rfl | ⟨k, _, hle, rfl⟩)
    · exact absurd hsuffix (by decide)
    · exact hnumbers k hle hsuffix
  exact hchange _ (.rel _ _ (.stray twoNumbers.pairs [] _ _ hstray))

end InventorySearch.Params
