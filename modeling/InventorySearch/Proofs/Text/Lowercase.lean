import InventorySearch.Text.Lowercase
import Mathlib.Data.List.Induction
import Mathlib.Tactic.SplitIfs

/-! How a part of a text is lowered. Only a capital sigma looks at what stands around it, and of that only at
the nearest characters that are not case-ignorable. So the part is lowered as it is by itself when these
characters decide within the part which form each of its sigmas takes. -/

namespace InventorySearch.Text

/-- The lowercase form of a character in its place. -/
def lowerAt (afterCased : Bool) (c : Char) (following : List Char) : List Char :=
  if c = 'Σ' then [lowerSigma afterCased following] else lowerChar c

/-- Tells whether the part before ends in a cased letter after one more character. -/
def stillCased (afterCased : Bool) (c : Char) : Bool :=
  if caseIgnorableCharacters.contains c then afterCased else casedCharacters.contains c

/-- The lowercase form of a part of a text, of which the rest follows. -/
def lowerBetween (afterCased : Bool) : List Char → List Char → List Char
  | [], _ => []
  | c :: rest, following =>
    lowerAt afterCased c (rest ++ following) ++ lowerBetween (stillCased afterCased c) rest following

/-- The first character that is not case-ignorable. -/
def nearest? (cs : List Char) : Option Char := cs.find? fun c => !caseIgnorableCharacters.contains c

/-- What stands around a capital sigma decides its form, whatever stands around that: a character that is not
cased comes before it, or a cased one after it, or there is one on both sides, case-ignorable ones aside. -/
def SettlesSigma (before after : List Char) : Prop :=
  (∃ c ∈ nearest? before.reverse, casedCharacters.contains c = false) ∨
    (∃ c ∈ nearest? after, casedCharacters.contains c = true) ∨
    ((nearest? before.reverse).isSome = true ∧ (nearest? after).isSome = true)

/-- A text decides the form of each of its capital sigmas. -/
def SigmasSettled (cs : List Char) : Prop :=
  ∀ before after, cs = before ++ 'Σ' :: after → SettlesSigma before after

/-! ### Parts of a text -/

section Parts

variable {afterCased : Bool} {cs following : List Char}

theorem lowerFrom_cons (afterCased : Bool) (c : Char) (rest : List Char) :
    lowerFrom afterCased (c :: rest) =
      lowerAt afterCased c rest ++ lowerFrom (stillCased afterCased c) rest := by
  have hcons : lowerFrom afterCased (c :: rest) =
      if c = 'Σ' then lowerSigma afterCased rest :: lowerFrom (stillCased afterCased c) rest
      else lowerChar c ++ lowerFrom (stillCased afterCased c) rest := rfl
  rw [hcons, lowerAt]
  split_ifs <;> rfl

theorem lowerFrom_append (afterCased : Bool) (cs rest : List Char) :
    lowerFrom afterCased (cs ++ rest) =
      lowerBetween afterCased cs rest ++ lowerFrom (cs.foldl stillCased afterCased) rest := by
  induction cs generalizing afterCased with
  | nil => rfl
  | cons c cs ih =>
      rw [List.cons_append, lowerFrom_cons, ih, lowerBetween, List.foldl_cons, List.append_assoc]

theorem lowerFrom_eq_lowerBetween (afterCased : Bool) (cs : List Char) :
    lowerFrom afterCased cs = lowerBetween afterCased cs [] := by
  have h := lowerFrom_append afterCased cs []
  rwa [List.append_nil, lowerFrom, List.append_nil] at h

theorem lowerBetween_of_not_mem (h : 'Σ' ∉ cs) : lowerBetween afterCased cs following = cs.flatMap lowerChar := by
  induction cs generalizing afterCased with
  | nil => rfl
  | cons c cs ih =>
      obtain ⟨hne, hrest⟩ := List.ne_and_not_mem_of_not_mem_cons h
      rw [lowerBetween, lowerAt, if_neg hne.symm, ih hrest, List.flatMap_cons]

end Parts

/-! ### What a sigma looks at -/

theorem startsCased_eq (cs : List Char) : startsCased cs = (nearest? cs).any casedCharacters.contains := by
  induction cs with
  | nil => rfl
  | cons c cs ih =>
      unfold startsCased nearest? at ih ⊢
      cases hc : caseIgnorableCharacters.contains c with
      | true => simpa [hc] using ih
      | false => simp [hc]

theorem foldl_stillCased (afterCased : Bool) (cs : List Char) :
    cs.foldl stillCased afterCased = (nearest? cs.reverse).elim afterCased casedCharacters.contains := by
  induction cs using List.reverseRecOn generalizing afterCased with
  | nil => rfl
  | append_singleton cs c ih =>
      rw [List.foldl_append, ih]
      unfold nearest? stillCased
      cases hc : caseIgnorableCharacters.contains c <;> simp [hc]

theorem nearest?_append (cs rest : List Char) : nearest? (cs ++ rest) = (nearest? cs).or (nearest? rest) :=
  List.find?_append

theorem nearest?_cons_sigma (rest : List Char) : nearest? ('Σ' :: rest) = some 'Σ' := by
  have hsigma : caseIgnorableCharacters.contains 'Σ' = false := by decide
  simp [nearest?, hsigma]

theorem sigma_not_mem_of_nearest? {cs : List Char} (h : nearest? cs = none) : 'Σ' ∉ cs := by
  intro hmem
  have hignorable := List.find?_eq_none.mp h 'Σ' hmem
  revert hignorable
  decide

theorem lowerSigma_congr {afterCased : Bool} {following following' : List Char}
    (h : nearest? following = nearest? following') :
    lowerSigma afterCased following = lowerSigma afterCased following' := by
  rw [lowerSigma, lowerSigma, startsCased_eq, startsCased_eq, h]

theorem lowerBetween_congr {afterCased : Bool} {following following' : List Char}
    (h : nearest? following = nearest? following') (cs : List Char) :
    lowerBetween afterCased cs following = lowerBetween afterCased cs following' := by
  induction cs generalizing afterCased with
  | nil => rfl
  | cons c cs ih =>
      have hrest : nearest? (cs ++ following) = nearest? (cs ++ following') := by
        rw [nearest?_append, nearest?_append, h]
      rw [lowerBetween, lowerBetween, ih, lowerAt, lowerAt, lowerSigma_congr hrest]

/-- What stands behind a sigma does not matter for what stands before it. -/
theorem lowerFrom_append_sigma (afterCased : Bool) (before after : List Char) :
    lowerFrom afterCased (before ++ 'Σ' :: after) =
      lowerBetween afterCased before ['Σ'] ++
        lowerSigma (before.foldl stillCased afterCased) after :: lowerFrom true after := by
  have hsigma : nearest? ('Σ' :: after) = nearest? ['Σ'] := by
    rw [nearest?_cons_sigma, nearest?_cons_sigma]
  have hcased : ∀ b, stillCased b 'Σ' = true := by decide
  rw [lowerFrom_append, lowerBetween_congr hsigma, lowerFrom_cons, hcased, lowerAt, if_pos rfl,
    List.singleton_append]

theorem SettlesSigma.lowerSigma_eq {before after : List Char} (h : SettlesSigma before after) (afterCased : Bool)
    (following : List Char) :
    lowerSigma (before.foldl stillCased afterCased) (after ++ following) =
      lowerSigma (before.foldl stillCased false) after := by
  simp only [lowerSigma, foldl_stillCased, startsCased_eq, nearest?_append]
  rcases h with ⟨c, hc, hcased⟩ | ⟨c, hc, hcased⟩ | ⟨hbefore, hafter⟩
  · simp [Option.mem_def.mp hc, hcased]
  · simp [Option.mem_def.mp hc, hcased]
  · obtain ⟨c, hc⟩ := Option.isSome_iff_exists.mp hbefore
    obtain ⟨d, hd⟩ := Option.isSome_iff_exists.mp hafter
    simp [hc, hd]

/-- A text that settles its sigmas is lowered alike wherever it stands. -/
theorem SigmasSettled.lowerBetween_eq {cs : List Char} (h : SigmasSettled cs) (afterCased : Bool)
    (following : List Char) : lowerBetween afterCased cs following = lowerFrom false cs := by
  -- What has been read already may decide a later sigma, so it goes along.
  have hrest : ∀ before after, cs = before ++ after →
      lowerBetween (before.foldl stillCased afterCased) after following =
        lowerBetween (before.foldl stillCased false) after [] := by
    intro before after
    induction after generalizing before with
    | nil => exact fun _ => rfl
    | cons c after ih =>
        intro hcs
        have hlater := ih (before ++ [c]) (by rw [hcs, List.append_assoc, List.singleton_append])
        rw [List.foldl_append, List.foldl_append, List.foldl_cons, List.foldl_nil, List.foldl_cons,
          List.foldl_nil] at hlater
        rw [lowerBetween, lowerBetween, hlater, List.append_nil, lowerAt, lowerAt]
        split_ifs with hc
        · subst hc
          rw [(h before after hcs).lowerSigma_eq afterCased following]
        · rfl
  rw [lowerFrom_eq_lowerBetween]
  exact hrest [] cs rfl

end InventorySearch.Text
