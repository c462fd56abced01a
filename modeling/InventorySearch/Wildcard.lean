import InventorySearch.Text.Lowercase

/-!
Patterns with wildcards: a star stands for any run of characters and a question mark for any one
character. A text is read along with its pattern; where they part, matching goes back to the last
star, which then takes one character more. A pattern is like a text when it matches some part of it,
both lowered.
-/
namespace InventorySearch.Wildcard

/-- Where matching stands: what is left of the pattern and of the text and, once a star has been
met, what to go back to. That is the pattern behind the last star, and the text behind the next
character that the star takes. -/
structure Scan where
  pattern : List Char
  text : List Char
  retry : Option (List Char × List Char)

namespace Scan

/-- The start of matching a whole text. -/
def start (pattern text : List Char) : Scan := ⟨pattern, text, none⟩

/-- Lets the last star take one character more; without a star there is no match. -/
def goBack (s : Scan) : Scan ⊕ Bool :=
  match s.retry with
  | some (pattern, text) => .inl ⟨pattern, text, some (pattern, text.tail)⟩
  | none => .inr false

/-- One step of matching: where it stands next, or the answer. -/
def step (s : Scan) : Scan ⊕ Bool :=
  match s.pattern, s.text with
  | pattern, [] => .inr (pattern.all (· = '*'))
  | '*' :: pattern, c :: text => .inl ⟨pattern, c :: text, some (pattern, text)⟩
  | p :: pattern, c :: text => if p = '?' ∨ p = c then .inl ⟨pattern, text, s.retry⟩ else s.goBack
  | [], _ :: _ => s.goBack

/-! ### The steps come to an end -/

/-- The length of the longest pattern that may still be gone through. -/
def patternLeft (s : Scan) : Nat :=
  max s.pattern.length (s.retry.elim 0 fun later => later.1.length)

/-- The length of the longest text that may still be gone through. -/
def textLeft (s : Scan) : Nat :=
  if s.text = [] then 0 else max s.text.length (s.retry.elim 0 fun later => later.2.length + 1)

/-- A bound on the steps before the last one: the rest of the pattern now, and the longest one again
for each character that is given up. -/
def cost (s : Scan) : Nat := s.textLeft * (s.patternLeft + 1) + s.pattern.length

theorem cost_lt_of_le {s s' : Scan} (htext : s'.textLeft ≤ s.textLeft)
    (hpattern : s'.patternLeft ≤ s.patternLeft) (h : s'.pattern.length < s.pattern.length) :
    s'.cost < s.cost :=
  Nat.add_lt_add_of_le_of_lt (Nat.mul_le_mul htext (Nat.succ_le_succ hpattern)) h

theorem cost_lt_of_lt {s s' : Scan} (htext : s'.textLeft < s.textLeft)
    (hpattern : s'.patternLeft ≤ s.patternLeft) : s'.cost < s.cost := by
  have hle : s'.pattern.length ≤ s'.patternLeft := Nat.le_max_left _ _
  calc
    s'.cost < s'.textLeft * (s'.patternLeft + 1) + (s'.patternLeft + 1) := by
      unfold cost
      omega
    _ = (s'.textLeft + 1) * (s'.patternLeft + 1) := (Nat.succ_mul _ _).symm
    _ ≤ s.textLeft * (s.patternLeft + 1) := Nat.mul_le_mul htext (Nat.succ_le_succ hpattern)
    _ ≤ s.cost := Nat.le_add_right _ _

theorem cost_lt_of_goBack {s s' : Scan} (htext : s.text ≠ []) (h : s.goBack = .inl s') :
    s'.cost < s.cost := by
  unfold goBack at h
  split at h
  next pattern text hretry =>
    cases h
    have hpos : 0 < s.text.length := List.length_pos_iff.mpr htext
    apply cost_lt_of_lt
    · simp only [textLeft, if_neg htext, hretry, Option.elim_some, List.length_tail]
      split
      · omega
      next hnext =>
        have hnextPos : 0 < text.length := List.length_pos_iff.mpr hnext
        omega
    · simp only [patternLeft, hretry, Option.elim_some]
      omega
  · cases h

theorem cost_lt_of_step {s s' : Scan} (h : s.step = .inl s') : s'.cost < s.cost := by
  obtain ⟨pattern, text, retry⟩ := s
  unfold step at h
  simp only at h
  split at h
  · cases h
  · cases h
    apply cost_lt_of_le
    · simp only [textLeft, if_neg (List.cons_ne_nil _ _), List.length_cons, Option.elim_some]
      omega
    · simp only [patternLeft, List.length_cons, Option.elim_some]
      omega
    · exact Nat.lt_succ_self _
  · split at h
    · cases h
      apply cost_lt_of_le
      · simp only [textLeft, if_neg (List.cons_ne_nil _ _), List.length_cons]
        split <;> omega
      · simp only [patternLeft, List.length_cons]
        omega
      · exact Nat.lt_succ_self _
    · exact cost_lt_of_goBack (List.cons_ne_nil _ _) h
  · exact cost_lt_of_goBack (List.cons_ne_nil _ _) h

/-- The answer that the steps lead to. -/
def run (s : Scan) : Bool :=
  match h : s.step with
  | .inl next =>
    have := cost_lt_of_step h
    next.run
  | .inr answer => answer
termination_by s.cost

end Scan

/-- Matches the whole of a text with a pattern. -/
def matchesWhole (pattern text : List Char) : Bool := (Scan.start pattern text).run

/-- Tells whether a pattern matches some part of a text, without regard to case. -/
def like (pattern candidate : String) : Bool :=
  matchesWhole ('*' :: (Text.lowerChars pattern.toList ++ ['*'])) (Text.lowerChars candidate.toList)

end InventorySearch.Wildcard
