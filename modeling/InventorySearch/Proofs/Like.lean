import InventorySearch.Proofs.Text.Lowercase
import InventorySearch.Proofs.Wildcard
import Mathlib.Data.List.Count

/-! Which parts of a text a pattern finds. Pattern and text are lowered each by itself, so that a text need not
be like its own part: a capital sigma of the part may take another form where it stands in the text. Looser
patterns fail for one more reason: a question mark stands for one character, and a capital I with a dot is two
when it is lowered. -/

namespace InventorySearch.Wildcard

open Text (SigmasSettled SettlesSigma lowerChar lowerChars lowerFrom lowerBetween lowerSigma nearest?)

/-- Question marks may stand in a pattern in place of its characters, and stars anywhere. -/
inductive Loosens : List Char → List Char → Prop
  | nil : Loosens [] []
  | keep (c : Char) {pattern looser : List Char} (h : Loosens pattern looser) : Loosens (c :: pattern) (c :: looser)
  | blur (c : Char) {pattern looser : List Char} (h : Loosens pattern looser) :
      Loosens (c :: pattern) ('?' :: looser)
  | star {pattern looser : List Char} (h : Loosens pattern looser) : Loosens pattern ('*' :: looser)

theorem Loosens.refl (pattern : List Char) : Loosens pattern pattern := by
  induction pattern with
  | nil => exact .nil
  | cons c pattern ih => exact .keep c ih

theorem Loosens.mem {pattern looser : List Char} (h : Loosens pattern looser) {c : Char} (hc : c ∈ looser) :
    c ∈ pattern ∨ c = '?' ∨ c = '*' := by
  induction h with
  | nil => cases hc
  | keep d h ih =>
      rcases List.mem_cons.mp hc with rfl | hc
      · exact Or.inl List.mem_cons_self
      · exact (ih hc).imp_left (List.mem_cons_of_mem d)
  | blur d h ih =>
      rcases List.mem_cons.mp hc with rfl | hc
      · exact Or.inr (Or.inl rfl)
      · exact (ih hc).imp_left (List.mem_cons_of_mem d)
  | star h ih =>
      rcases List.mem_cons.mp hc with rfl | hc
      · exact Or.inr (Or.inr rfl)
      · exact ih hc

/-! ### Patterns and the text that they are made from -/

theorem Matches.cons {pattern text : List Char} (h : Matches pattern text) (c : Char) :
    Matches (c :: pattern) (c :: text) := by
  by_cases hstar : c = '*'
  · subst hstar
    exact .star ['*'] h
  · exact (matches_cons_iff hstar).mpr ⟨c, text, rfl, Or.inr rfl, h⟩

theorem matches_self (cs : List Char) : Matches cs cs := by
  induction cs with
  | nil => exact .nil
  | cons c cs ih => exact ih.cons c

/-- A pattern asks for as many copies of a character as it holds. -/
theorem count_le_of_matches {pattern text : List Char} (h : Matches pattern text) {c : Char} (hstar : c ≠ '*')
    (hany : c ≠ '?') : pattern.count c ≤ text.count c := by
  induction h with
  | nil => exact Nat.le_refl _
  | star run h ih =>
      rw [List.count_cons_of_ne hstar.symm, List.count_append]
      omega
  | any d h ih =>
      rw [List.count_cons_of_ne hany.symm]
      exact ih.trans (List.count_le_count_cons)
  | @same d _ _ pattern text h ih =>
      rw [List.count_cons, List.count_cons]
      omega

theorem count_le_of_like {pattern candidate : String} (h : like pattern candidate = true) {c : Char}
    (hstar : c ≠ '*') (hany : c ≠ '?') :
    (lowerChars pattern.toList).count c ≤ (lowerChars candidate.toList).count c := by
  obtain ⟨before, part, after, hcandidate, hpart⟩ := like_eq_true_iff.mp h
  have hle := count_le_of_matches hpart hstar hany
  rw [hcandidate, List.count_append, List.count_append]
  omega

theorem exists_lowerChar_eq {c : Char} (h : c ≠ 'İ') : ∃ d, lowerChar c = [d] := by
  have hcode : c.toNat ≠ 0x130 := fun heq => h (Char.toNat_inj.mp heq)
  unfold lowerChar
  simp only [if_neg hcode]
  split_ifs
  · exact ⟨_, rfl⟩
  · exact ⟨_, rfl⟩
  · split <;> exact ⟨_, rfl⟩

theorem Loosens.matches_lower {pattern looser : List Char} (h : Loosens pattern looser)
    (hdotted : 'İ' ∉ pattern) : Matches (looser.flatMap lowerChar) (pattern.flatMap lowerChar) := by
  induction h with
  | nil => exact .nil
  | @keep c pattern looser h ih =>
      obtain ⟨hc, hpattern⟩ := List.ne_and_not_mem_of_not_mem_cons hdotted
      obtain ⟨d, hd⟩ := exists_lowerChar_eq hc.symm
      rw [List.flatMap_cons, List.flatMap_cons, hd]
      exact (ih hpattern).cons d
  | @blur c pattern looser h ih =>
      obtain ⟨hc, hpattern⟩ := List.ne_and_not_mem_of_not_mem_cons hdotted
      obtain ⟨d, hd⟩ := exists_lowerChar_eq hc.symm
      have hany : lowerChar '?' = ['?'] := rfl
      rw [List.flatMap_cons, List.flatMap_cons, hd, hany]
      exact .any d (ih hpattern)
  | star h ih =>
      have hstar : lowerChar '*' = ['*'] := rfl
      rw [List.flatMap_cons, hstar]
      exact .star [] (ih hdotted)

/-! ### Parts that are found -/

theorem lowerChars_around (before part after : List Char) :
    lowerChars (before ++ part ++ after) =
      lowerBetween false before (part ++ after) ++ lowerBetween (before.foldl Text.stillCased false) part after ++
        lowerFrom (part.foldl Text.stillCased (before.foldl Text.stillCased false)) after := by
  rw [lowerChars, List.append_assoc, Text.lowerFrom_append, Text.lowerFrom_append, List.append_assoc]

/-- A pattern finds a part that it matches as this is lowered in its place. -/
theorem like_of_matches_lowerBetween {pattern part : String} {before after : String}
    (h : ∀ afterCased, Matches (lowerChars pattern.toList) (lowerBetween afterCased part.toList after.toList)) :
    like pattern (before ++ part ++ after) = true := by
  rw [like_eq_true_iff, String.toList_append, String.toList_append]
  exact ⟨_, _, _, lowerChars_around before.toList part.toList after.toList, h _⟩

theorem like_of_sigmasSettled {part : String} (h : SigmasSettled part.toList) (before after : String) :
    like part (before ++ part ++ after) = true := by
  apply like_of_matches_lowerBetween
  intro afterCased
  rw [h.lowerBetween_eq]
  exact matches_self _

theorem like_of_loosens {part looser : String} (h : Loosens part.toList looser.toList) (hsigma : 'Σ' ∉ part.toList)
    (hdotted : 'İ' ∉ part.toList) (before after : String) : like looser (before ++ part ++ after) = true := by
  have hlooser : 'Σ' ∉ looser.toList := by
    intro hmem
    rcases h.mem hmem with hmem | heq | heq
    · exact hsigma hmem
    · cases heq
    · cases heq
  apply like_of_matches_lowerBetween
  intro afterCased
  rw [lowerChars, Text.lowerFrom_eq_lowerBetween, Text.lowerBetween_of_not_mem hlooser,
    Text.lowerBetween_of_not_mem hsigma]
  exact h.matches_lower hdotted

/-! ### Parts that are not found -/

section Unsettled

variable {part : String} {before after : List Char}

/-- A sigma that nothing before it settles becomes final behind a cased letter. -/
theorem not_like_behind_letter (hpart : part.toList = before ++ 'Σ' :: after) (hbefore : nearest? before.reverse = none)
    (hafter : ¬∃ c ∈ nearest? after, Text.casedCharacters.contains c = true) :
    like part ("A" ++ part ++ "") ≠ true := by
  intro hlike
  have hsigma : 'Σ' ∉ before := fun hmem => Text.sigma_not_mem_of_nearest? hbefore (List.mem_reverse.mpr hmem)
  have hstarts : Text.startsCased after = false := by
    rw [Text.startsCased_eq]
    simpa [Option.any_eq_false] using hafter
  have hlower : ∀ afterCased, lowerFrom afterCased part.toList =
      before.flatMap lowerChar ++ (if afterCased then 'ς' else 'σ') :: lowerFrom true after := by
    intro afterCased
    rw [hpart, Text.lowerFrom_append_sigma, Text.lowerBetween_of_not_mem hsigma, Text.foldl_stillCased, hbefore,
      Option.elim_none, lowerSigma, hstarts, Bool.not_false, Bool.and_true]
  have htext : lowerChars ("A" ++ part ++ "").toList = 'a' :: lowerFrom true part.toList := by
    rw [String.append_empty, String.toList_append]
    rfl
  have hcount : (lowerFrom false part.toList).count 'σ' ≤ ('a' :: lowerFrom true part.toList).count 'σ' :=
    htext ▸ count_le_of_like hlike (by decide) (by decide)
  -- Behind the letter one sigma fewer is lowered to its plain form.
  have hfinal : 'ς' ≠ 'σ' := by decide
  have hletter : 'a' ≠ 'σ' := by decide
  have halone : lowerFrom false part.toList = before.flatMap lowerChar ++ 'σ' :: lowerFrom true after := hlower false
  have hbehind : lowerFrom true part.toList = before.flatMap lowerChar ++ 'ς' :: lowerFrom true after := hlower true
  rw [halone, hbehind, List.count_cons_of_ne hletter, List.count_append, List.count_append, List.count_cons_self,
    List.count_cons_of_ne hfinal] at hcount
  omega

/-- A sigma that would be final is not when a cased letter follows. -/
theorem not_like_before_letter (hpart : part.toList = before ++ 'Σ' :: after) {c : Char}
    (hbefore : nearest? before.reverse = some c) (hcased : Text.casedCharacters.contains c = true)
    (hafter : nearest? after = none) : like part ("" ++ part ++ "A") ≠ true := by
  intro hlike
  have hsigma : 'Σ' ∉ after := Text.sigma_not_mem_of_nearest? hafter
  have hlower : ∀ rest, lowerFrom false (part.toList ++ rest) =
      lowerBetween false before ['Σ'] ++ (if Text.startsCased rest then 'σ' else 'ς') ::
        (after.flatMap lowerChar ++ lowerFrom (after.foldl Text.stillCased true) rest) := by
    intro rest
    rw [hpart, List.append_assoc, List.cons_append, Text.lowerFrom_append_sigma, Text.lowerFrom_append,
      Text.lowerBetween_of_not_mem hsigma, Text.foldl_stillCased, hbefore, Option.elim_some, hcased, lowerSigma,
      Text.startsCased_eq, Text.nearest?_append, hafter, Option.none_or, ← Text.startsCased_eq]
    cases Text.startsCased rest <;> rfl
  have hcount : (lowerFrom false part.toList).count 'ς' ≤ (lowerFrom false (part.toList ++ ['A'])).count 'ς' := by
    have hle := count_le_of_like hlike (c := 'ς') (by decide) (by decide)
    rwa [String.empty_append, String.toList_append] at hle
  -- Before the letter one sigma fewer is lowered to its final form.
  have hplain : 'σ' ≠ 'ς' := by decide
  have hletter : ∀ afterCased, (lowerFrom afterCased ['A']).count 'ς' = 0 := by decide
  have halone : lowerFrom false part.toList =
      lowerBetween false before ['Σ'] ++ 'ς' :: after.flatMap lowerChar := by
    have hnothing := hlower []
    rwa [lowerFrom, List.append_nil, List.append_nil] at hnothing
  have hfollowed : lowerFrom false (part.toList ++ ['A']) = lowerBetween false before ['Σ'] ++
      'σ' :: (after.flatMap lowerChar ++ lowerFrom (after.foldl Text.stillCased true) ['A']) := hlower ['A']
  rw [halone, hfollowed, List.count_append, List.count_append, List.count_cons_self, List.count_cons_of_ne hplain,
    List.count_append, hletter] at hcount
  omega

end Unsettled

/-- A part is found wherever it stands exactly when it settles its sigmas. -/
theorem forall_like_iff {part : String} :
    (∀ before after, like part (before ++ part ++ after) = true) ↔ SigmasSettled part.toList := by
  refine ⟨fun hfound before after hpart => ?_, fun h before after => like_of_sigmasSettled h before after⟩
  by_contra hunsettled
  unfold SettlesSigma at hunsettled
  push Not at hunsettled
  obtain ⟨hcased, hafter, hone⟩ := hunsettled
  cases hbefore : nearest? before.reverse with
  | none =>
      refine not_like_behind_letter hpart hbefore ?_ (hfound "A" "")
      rintro ⟨c, hc, h⟩
      exact hafter c hc h
  | some c =>
      have hnone : nearest? after = none := by
        rw [hbefore] at hone
        simpa using hone rfl
      have hc : Text.casedCharacters.contains c = true := by simpa using hcased c hbefore
      exact not_like_before_letter hpart hbefore hc hnone (hfound "" "A")

/-- A pattern need not be like a text that it is a part of. It is wherever it stands exactly when it decides the
form of its sigmas. All looser forms of the patterns with some letters are as well, exactly when these letters
have neither a capital sigma nor a capital I with a dot. -/
theorem parts_found_iff (part : String) (letter : Char → Prop) :
    ((∀ before after, like part (before ++ part ++ after) = true) ↔ SigmasSettled part.toList) ∧
      ((∀ part looser before after : String, (∀ c ∈ part.toList, letter c) → Loosens part.toList looser.toList →
          like looser (before ++ part ++ after) = true) ↔ ¬letter 'Σ' ∧ ¬letter 'İ') := by
  refine ⟨forall_like_iff, fun hfound => ⟨fun hsigma => ?_, fun hdotted => ?_⟩, ?_⟩
  · have hletters : ∀ c ∈ "Σ".toList, letter c := by simpa using hsigma
    have hlike := hfound "Σ" "Σ" "A" "" hletters (Loosens.refl _)
    revert hlike
    decide +kernel
  · have hletters : ∀ c ∈ "İİİ".toList, letter c := by simpa using hdotted
    have hlike := hfound "İİİ" "İ?İ" "" "" hletters (.keep _ (.blur _ (.keep _ .nil)))
    revert hlike
    decide +kernel
  · rintro ⟨hsigma, hdotted⟩ part looser before after hletters hloosens
    exact like_of_loosens hloosens (fun hmem => hsigma (hletters _ hmem)) (fun hmem => hdotted (hletters _ hmem))
      before after

theorem sigma_not_found_in_word :
    ¬SigmasSettled "Σ".toList ∧ like "Σ" ("Α" ++ "Σ" ++ "") = false := by
  have hlike : like "Σ" ("Α" ++ "Σ" ++ "") = false := by decide +kernel
  refine ⟨fun hsettled => ?_, hlike⟩
  have hfound := (parts_found_iff "Σ" fun _ => True).1.mpr hsettled "Α" ""
  rw [hlike] at hfound
  cases hfound

end InventorySearch.Wildcard
