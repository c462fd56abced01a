import InventorySearch.Wildcard
import Mathlib.Data.List.Infix

/-! What a pattern with wildcards matches, and that the way of matching it finds this. Matching goes back to
the last star only. This loses nothing: whatever an earlier star could still take, what lies between the two
stars would match further on in the text, and there the last star can take up to that place as well. -/

namespace InventorySearch.Wildcard

/-- A pattern matches the whole of a text. -/
inductive Matches : List Char → List Char → Prop
  | nil : Matches [] []
  | star (run : List Char) {pattern text : List Char} (h : Matches pattern text) :
      Matches ('*' :: pattern) (run ++ text)
  | any (c : Char) {pattern text : List Char} (h : Matches pattern text) : Matches ('?' :: pattern) (c :: text)
  | same {c : Char} (hstar : c ≠ '*') (hany : c ≠ '?') {pattern text : List Char} (h : Matches pattern text) :
      Matches (c :: pattern) (c :: text)

/-! ### Parts of a pattern -/

section Parts

variable {pattern text : List Char}

theorem matches_nil_iff : Matches [] text ↔ text = [] := by
  constructor
  · intro h
    cases h
    rfl
  · rintro rfl
    exact .nil

theorem matches_star_iff : Matches ('*' :: pattern) text ↔ ∃ run rest, text = run ++ rest ∧ Matches pattern rest := by
  constructor
  · intro h
    cases h with
    | star run h => exact ⟨run, _, rfl, h⟩
    | same hstar => exact absurd rfl hstar
  · rintro ⟨run, rest, rfl, h⟩
    exact .star run h

theorem matches_cons_iff {p : Char} (hp : p ≠ '*') :
    Matches (p :: pattern) text ↔ ∃ c rest, text = c :: rest ∧ (p = '?' ∨ p = c) ∧ Matches pattern rest := by
  constructor
  · intro h
    cases h with
    | star run h => exact absurd rfl hp
    | any c h => exact ⟨c, _, rfl, Or.inl rfl, h⟩
    | same hstar hany h => exact ⟨p, _, rfl, Or.inr rfl, h⟩
  · rintro ⟨c, rest, rfl, hfits, h⟩
    by_cases hany : p = '?'
    · subst hany
      exact .any c h
    · obtain rfl := hfits.resolve_left hany
      exact .same hp hany h

theorem matches_append_iff {later : List Char} :
    Matches (pattern ++ later) text ↔ ∃ part rest, text = part ++ rest ∧ Matches pattern part ∧ Matches later rest := by
  induction pattern generalizing text with
  | nil => simp [matches_nil_iff]
  | cons p pattern ih =>
      by_cases hp : p = '*'
      · subst hp
        simp only [List.cons_append, matches_star_iff, ih]
        constructor
        · rintro ⟨run, _, rfl, part, rest, rfl, hpart, hrest⟩
          exact ⟨run ++ part, rest, by simp, ⟨run, part, rfl, hpart⟩, hrest⟩
        · rintro ⟨_, rest, rfl, ⟨run, part, rfl, hpart⟩, hrest⟩
          exact ⟨run, part ++ rest, by simp, part, rest, rfl, hpart, hrest⟩
      · simp only [List.cons_append, matches_cons_iff hp, ih]
        constructor
        · rintro ⟨c, _, rfl, hfits, part, rest, rfl, hpart, hrest⟩
          exact ⟨c :: part, rest, rfl, ⟨c, part, rfl, hfits, hpart⟩, hrest⟩
        · rintro ⟨_, rest, rfl, ⟨c, part, rfl, hfits, hpart⟩, hrest⟩
          exact ⟨c, part ++ rest, rfl, hfits, part, rest, rfl, hpart, hrest⟩

/-- Without a star a pattern matches texts of its own length. -/
theorem length_eq_of_matches (hplain : '*' ∉ pattern) (h : Matches pattern text) : text.length = pattern.length := by
  induction h with
  | nil => rfl
  | star run h => exact absurd List.mem_cons_self hplain
  | any c h ih => simp [ih (mt (List.mem_cons_of_mem _) hplain)]
  | same hstar hany h ih => simp [ih (mt (List.mem_cons_of_mem _) hplain)]

theorem matches_star_append (run : List Char) (h : Matches ('*' :: pattern) text) :
    Matches ('*' :: pattern) (run ++ text) := by
  obtain ⟨taken, rest, rfl, hrest⟩ := matches_star_iff.mp h
  rw [← List.append_assoc]
  exact .star (run ++ taken) hrest

theorem matches_star_star (h : Matches ('*' :: '*' :: pattern) text) : Matches ('*' :: pattern) text := by
  obtain ⟨run, rest, rfl, hrest⟩ := matches_star_iff.mp h
  exact matches_star_append run hrest

theorem matches_star_cons_iff {c : Char} :
    Matches ('*' :: pattern) (c :: text) ↔ Matches pattern (c :: text) ∨ Matches ('*' :: pattern) text := by
  constructor
  · intro h
    obtain ⟨run, rest, htext, hrest⟩ := matches_star_iff.mp h
    cases run with
    | nil =>
        rw [List.nil_append] at htext
        exact Or.inl (htext ▸ hrest)
    | cons d run =>
        obtain ⟨rfl, rfl⟩ := List.cons.inj htext
        exact Or.inr (.star run hrest)
  · rintro (h | h)
    · exact .star [] h
    · exact matches_star_append [c] h

theorem matches_star_nil_iff : Matches ('*' :: pattern) [] ↔ Matches pattern [] := by
  simp [matches_star_iff]

theorem matches_nil_right_iff : Matches pattern [] ↔ pattern.all (· = '*') = true := by
  induction pattern with
  | nil => simp [matches_nil_iff]
  | cons p pattern ih =>
      by_cases hp : p = '*'
      · subst hp
        simp [matches_star_nil_iff, ih]
      · simp [matches_cons_iff hp, hp]

end Parts

/-! ### One step -/

namespace Scan

/-- What a step can do. -/
inductive Move : Scan → Scan ⊕ Bool → Prop
  | ended (pattern : List Char) (retry : Option (List Char × List Char)) :
      Move ⟨pattern, [], retry⟩ (.inr (pattern.all (· = '*')))
  | star (pattern : List Char) (c : Char) (text : List Char) (retry : Option (List Char × List Char)) :
      Move ⟨'*' :: pattern, c :: text, retry⟩ (.inl ⟨pattern, c :: text, some (pattern, text)⟩)
  | fits {p c : Char} (hstar : p ≠ '*') (hfits : p = '?' ∨ p = c) (pattern text : List Char)
      (retry : Option (List Char × List Char)) : Move ⟨p :: pattern, c :: text, retry⟩ (.inl ⟨pattern, text, retry⟩)
  | back {pattern text : List Char} (hparted : ¬Matches pattern text) (later rest : List Char) :
      Move ⟨pattern, text, some (later, rest)⟩ (.inl ⟨later, rest, some (later, rest.tail)⟩)
  | failed {pattern text : List Char} (hparted : ¬Matches pattern text) : Move ⟨pattern, text, none⟩ (.inr false)

theorem move_goBack {s : Scan} (hparted : ¬Matches s.pattern s.text) : s.Move s.goBack := by
  obtain ⟨pattern, text, _ | ⟨later, rest⟩⟩ := s
  · exact .failed hparted
  · exact .back hparted later rest

theorem move_step (s : Scan) : s.Move s.step := by
  obtain ⟨pattern, text, retry⟩ := s
  unfold step
  simp only
  split
  · exact .ended _ retry
  · exact .star _ _ _ retry
  next p pattern c text hstar =>
    have hp : p ≠ '*' := fun h => hstar h
    split_ifs with hfits
    · exact .fits hp hfits pattern text retry
    · apply move_goBack
      rw [matches_cons_iff hp]
      rintro ⟨_, _, htext, h, _⟩
      cases htext
      exact hfits h
  next c text =>
    apply move_goBack
    simp [matches_nil_iff]

/-- The pattern behind the last star has been followed to where matching stands without meeting another one,
and what it has matched since then begins one character before the text to go back to. -/
def Placed (s : Scan) : Prop :=
  ∀ later rest, s.retry = some (later, rest) →
    ∃ read taken, later = read ++ s.pattern ∧ '*' ∉ read ∧ taken.length = read.length ∧
      rest = (taken ++ s.text).tail

/-- The last star may still lead to a match with more than it has taken. -/
def CanGoBack (s : Scan) : Prop := ∃ later rest, s.retry = some (later, rest) ∧ Matches ('*' :: later) rest

/-- Matching may still succeed. -/
def CanMatch (s : Scan) : Prop := Matches s.pattern s.text ∨ s.CanGoBack

/-- What may come of going back is also found further on: the part of the pattern that lies between is matched
again behind the place where it has been matched. -/
theorem matches_star_of_earlier {read pattern taken text : List Char} (hread : '*' ∉ read)
    (hlength : taken.length = read.length) (h : Matches ('*' :: (read ++ pattern)) (taken ++ text).tail) :
    Matches ('*' :: pattern) text := by
  obtain ⟨run, again, hrun, hagain⟩ := matches_star_iff.mp h
  obtain ⟨part, rest, rfl, hpart, hrest⟩ := matches_append_iff.mp hagain
  have hsame : part.length = taken.length := (length_eq_of_matches hread hpart).trans hlength.symm
  have hsuffix : rest <:+ taken ++ text := by
    have htail : rest <:+ (taken ++ text).tail := ⟨run ++ part, by rw [hrun, List.append_assoc]⟩
    exact htail.trans (List.tail_suffix _)
  have hshort : rest.length ≤ text.length := by
    have hwhole := congrArg List.length hrun
    simp only [List.length_tail, List.length_append] at hwhole
    omega
  obtain ⟨skipped, rfl⟩ := List.suffix_of_suffix_length_le hsuffix (List.suffix_append taken text) hshort
  exact .star skipped hrest

theorem Placed.matches_star {s : Scan} (hplaced : s.Placed) (h : s.CanGoBack) :
    Matches ('*' :: s.pattern) s.text := by
  obtain ⟨later, rest, hretry, hmatches⟩ := h
  obtain ⟨read, taken, rfl, hread, hlength, rfl⟩ := hplaced later rest hretry
  exact matches_star_of_earlier hread hlength hmatches

theorem Placed.step {s next : Scan} (hplaced : s.Placed) (h : s.step = .inl next) : next.Placed := by
  have hmove := s.move_step
  rw [h] at hmove
  intro later rest hretry
  cases hmove with
  | star pattern c text retry =>
      cases hretry
      exact ⟨[], [], rfl, by simp, rfl, rfl⟩
  | @fits p c hstar hfits pattern text retry =>
      obtain ⟨read, taken, rfl, hread, hlength, rfl⟩ := hplaced later rest hretry
      refine ⟨read ++ [p], taken ++ [c], by simp, ?_, by simp [hlength], by simp⟩
      simp [hread, hstar.symm]
  | back hparted later rest =>
      cases hretry
      exact ⟨[], [], rfl, by simp, rfl, rfl⟩

theorem canMatch_step_iff {s next : Scan} (hplaced : s.Placed) (h : s.step = .inl next) :
    next.CanMatch ↔ s.CanMatch := by
  have hmove := s.move_step
  rw [h] at hmove
  cases hmove with
  | star pattern c text retry =>
      have hnext : CanMatch ⟨pattern, c :: text, some (pattern, text)⟩ ↔ Matches ('*' :: pattern) (c :: text) := by
        simp [CanMatch, CanGoBack, matches_star_cons_iff]
      rw [hnext]
      constructor
      · exact Or.inl
      · rintro (hmatches | hback)
        · exact hmatches
        · exact matches_star_star (hplaced.matches_star hback)
  | @fits p c hstar hfits pattern text retry =>
      have hsame : Matches (p :: pattern) (c :: text) ↔ Matches pattern text := by
        rw [matches_cons_iff hstar]
        constructor
        · rintro ⟨_, _, htext, _, hrest⟩
          cases htext
          exact hrest
        · exact fun hrest => ⟨c, text, rfl, hfits, hrest⟩
      simp only [CanMatch, CanGoBack, hsame]
  | @back pattern text hparted later rest =>
      have hretry : Matches later rest ∨ Matches ('*' :: later) rest.tail ↔ Matches ('*' :: later) rest := by
        cases rest with
        | nil => simp [matches_star_nil_iff]
        | cons c rest => exact matches_star_cons_iff.symm
      simp [CanMatch, CanGoBack, hparted, hretry]

theorem canMatch_iff_of_answer {s : Scan} {answer : Bool} (hplaced : s.Placed) (h : s.step = .inr answer) :
    answer = true ↔ s.CanMatch := by
  have hmove := s.move_step
  rw [h] at hmove
  cases hmove with
  | ended pattern retry =>
      rw [← matches_nil_right_iff]
      constructor
      · exact Or.inl
      · rintro (hmatches | hback)
        · exact hmatches
        · exact matches_star_nil_iff.mp (hplaced.matches_star hback)
  | failed hparted => simp [CanMatch, CanGoBack, hparted]

/-! ### All steps -/

theorem run_of_step {s next : Scan} (h : s.step = .inl next) : s.run = next.run := by
  rw [run]
  split <;> simp_all

theorem run_of_answer {s : Scan} {answer : Bool} (h : s.step = .inr answer) : s.run = answer := by
  rw [run]
  split <;> simp_all

theorem run_eq_true_iff {s : Scan} (hplaced : s.Placed) : s.run = true ↔ s.CanMatch := by
  induction s using run.induct with
  | case1 s next h _ ih => rw [run_of_step h, ih (hplaced.step h), canMatch_step_iff hplaced h]
  | case2 s answer h => rw [run_of_answer h, canMatch_iff_of_answer hplaced h]

/-- Where matching stands after a number of steps, or the answer once there is one. -/
def after (s : Scan) : Nat → Scan ⊕ Bool
  | 0 => .inl s
  | n + 1 =>
    match s.step with
    | .inl next => next.after n
    | .inr answer => .inr answer

theorem after_of_cost_lt {s : Scan} {n : Nat} (h : s.cost < n) : s.after n = .inr s.run := by
  induction n generalizing s with
  | zero => omega
  | succ n ih =>
      cases hstep : s.step with
      | inl next =>
          have hless := cost_lt_of_step hstep
          rw [after, hstep, run_of_step hstep]
          exact ih (by omega)
      | inr answer => rw [after, hstep, run_of_answer hstep]

theorem placed_start (pattern text : List Char) : (start pattern text).Placed := by
  intro later rest hretry
  cases hretry

theorem cost_start_le (pattern text : List Char) :
    (start pattern text).cost ≤ text.length * (pattern.length + 1) + pattern.length := by
  have htext : (start pattern text).textLeft ≤ text.length := by
    simp only [textLeft, start, Option.elim_none, Nat.max_zero]
    split_ifs
    · exact Nat.zero_le _
    · exact Nat.le_refl _
  have hpattern : (start pattern text).patternLeft = pattern.length := by simp [patternLeft, start]
  rw [cost, hpattern]
  exact Nat.add_le_add_right (Nat.mul_le_mul_right _ htext) _

end Scan

theorem matchesWhole_eq_true_iff {pattern text : List Char} :
    matchesWhole pattern text = true ↔ Matches pattern text := by
  rw [matchesWhole, Scan.run_eq_true_iff (Scan.placed_start pattern text), Scan.CanMatch]
  simp [Scan.CanGoBack, Scan.start]

/-- A star on either side lets a pattern match any part. -/
theorem matches_between_stars_iff {pattern text : List Char} :
    Matches ('*' :: (pattern ++ ['*'])) text ↔
      ∃ before part after, text = before ++ part ++ after ∧ Matches pattern part := by
  simp only [matches_star_iff, matches_append_iff, matches_nil_iff]
  constructor
  · rintro ⟨before, _, rfl, part, _, rfl, hpart, after, _, rfl, rfl⟩
    exact ⟨before, part, after, by simp, hpart⟩
  · rintro ⟨before, part, after, rfl, hpart⟩
    exact ⟨before, part ++ after, by simp, part, after, rfl, hpart, after, [], by simp, rfl⟩

theorem like_eq_true_iff {pattern candidate : String} :
    like pattern candidate = true ↔
      ∃ before part after, Text.lowerChars candidate.toList = before ++ part ++ after ∧
        Matches (Text.lowerChars pattern.toList) part := by
  rw [like, matchesWhole_eq_true_iff, matches_between_stars_iff]

/-- Matching ends after a number of steps that is bounded by the lengths of the pattern and of the text
multiplied, and says whether the pattern matches the whole text. So a pattern is like a text exactly when,
lowered, it matches some part of the lowered text. -/
theorem scan_ends_with_matches :
    (∀ pattern text : List Char,
      (Scan.start pattern text).after (text.length * (pattern.length + 1) + pattern.length + 1) =
          .inr (matchesWhole pattern text) ∧
        (matchesWhole pattern text = true ↔ Matches pattern text)) ∧
      ∀ pattern candidate : String, like pattern candidate = true ↔
        ∃ before part after : String, Text.lowercase candidate = before ++ part ++ after ∧
          Matches (Text.lowercase pattern).toList part.toList := by
  constructor
  · intro pattern text
    refine ⟨Scan.after_of_cost_lt ?_, matchesWhole_eq_true_iff⟩
    exact Nat.lt_succ_of_le (Scan.cost_start_le pattern text)
  · intro pattern candidate
    rw [like_eq_true_iff, Text.lowercase, Text.lowercase, String.toList_ofList]
    constructor
    · rintro ⟨before, part, after, htext, hpart⟩
      refine ⟨String.ofList before, String.ofList part, String.ofList after, ?_, ?_⟩
      · rw [htext, String.ofList_append, String.ofList_append]
      · rwa [String.toList_ofList]
    · rintro ⟨before, part, after, htext, hpart⟩
      refine ⟨before.toList, part.toList, after.toList, ?_, hpart⟩
      have hlist := congrArg String.toList htext
      simpa using hlist

end InventorySearch.Wildcard
