import InventorySearch.Text.Blank
import Mathlib.Data.List.DropRight

/-! A text is trimmed exactly when it neither starts nor ends with a blank, so trimming once is enough. -/

namespace InventorySearch.Text

theorem trimChars_eq (cs : List Char) : trimChars cs = (cs.dropWhile isBlank).rdropWhile isBlank :=
  rfl

theorem dropWhile_isBlank_eq_self_iff {cs : List Char} :
    cs.dropWhile isBlank = cs ↔ ∀ c ∈ cs.head?, isBlank c = false := by
  rw [List.dropWhile_eq_self_iff]
  cases cs <;> simp

theorem rdropWhile_isBlank_eq_self_iff {cs : List Char} :
    cs.rdropWhile isBlank = cs ↔ ∀ c ∈ cs.getLast?, isBlank c = false := by
  rw [List.rdropWhile_eq_self_iff]
  rcases List.eq_nil_or_concat' cs with rfl | ⟨before, c, rfl⟩ <;> simp

/-- A text is trimmed when it neither starts nor ends with a blank. -/
theorem trimChars_eq_self_iff {cs : List Char} :
    trimChars cs = cs ↔ (∀ c ∈ cs.head?, isBlank c = false) ∧ ∀ c ∈ cs.getLast?, isBlank c = false := by
  rw [← dropWhile_isBlank_eq_self_iff, ← rdropWhile_isBlank_eq_self_iff, trimChars_eq]
  constructor
  · intro h
    -- Nothing is dropped on the right, so nothing can have been dropped on the left before.
    have hright := (List.rdropWhile_prefix isBlank (cs.dropWhile isBlank)).length_le
    have hleft := (List.dropWhile_suffix (l := cs) isBlank).length_le
    have hdrop : cs.dropWhile isBlank = cs := by
      apply (List.dropWhile_suffix isBlank).eq_of_length
      rw [h] at hright
      omega
    rw [hdrop] at h
    exact ⟨hdrop, h⟩
  · rintro ⟨hdrop, hright⟩
    rw [hdrop, hright]

theorem trim_eq_self_iff {s : String} :
    trim s = s ↔
      (∀ c ∈ s.toList.head?, isBlank c = false) ∧ ∀ c ∈ s.toList.getLast?, isBlank c = false := by
  rw [← trimChars_eq_self_iff, trim, ← String.toList_inj, String.toList_ofList]

theorem trimChars_trimChars (cs : List Char) : trimChars (trimChars cs) = trimChars cs := by
  rw [trimChars_eq_self_iff, ← rdropWhile_isBlank_eq_self_iff, trimChars_eq, List.rdropWhile_idempotent]
  refine ⟨fun c hc => ?_, rfl⟩
  obtain ⟨rest, hrest⟩ := List.rdropWhile_prefix isBlank (cs.dropWhile isBlank)
  have hhead : c ∈ (cs.dropWhile isBlank).head? := by
    rw [← hrest, List.head?_append, Option.mem_def.mp hc]
    rfl
  exact dropWhile_isBlank_eq_self_iff.mp (List.dropWhile_idempotent isBlank cs) c hhead

theorem trim_trim (s : String) : trim (trim s) = trim s := by
  rw [trim, trim, String.toList_ofList, trimChars_trimChars]

theorem mem_of_mem_trimChars {cs : List Char} {c : Char} (h : c ∈ trimChars cs) : c ∈ cs :=
  (List.dropWhile_sublist isBlank).mem ((List.rdropWhile_prefix isBlank _).mem h)

/-- Trimming drops nothing but blanks. -/
theorem mem_trimChars_of_mem {cs : List Char} {c : Char} (h : c ∈ cs) (hc : isBlank c = false) : c ∈ trimChars cs := by
  have hkeep : ∀ {cs : List Char}, c ∈ cs → c ∈ cs.dropWhile isBlank := by
    intro cs hmem
    rw [← List.takeWhile_append_dropWhile (p := isBlank) (l := cs), List.mem_append] at hmem
    rcases hmem with hdropped | hkept
    · exact absurd (List.mem_takeWhile_imp hdropped) (by rw [hc]; exact Bool.false_ne_true)
    · exact hkept
  exact List.mem_reverse.mpr (hkeep (List.mem_reverse.mpr (hkeep h)))

/-- A text without blanks is trimmed. -/
theorem trim_eq_self {s : String} (h : ∀ c ∈ s.toList, isBlank c = false) : trim s = s :=
  trim_eq_self_iff.mpr ⟨fun c hc => h c (List.mem_of_mem_head? hc), fun c hc => h c (List.mem_of_mem_getLast? hc)⟩

end InventorySearch.Text
