import InventorySearch.Proofs.Text.Blank
import InventorySearch.Text.Pieces

/-! What is joined by a separator is read back by cutting at it, as long as the separator stands in none
of the pieces. A comma-separated list gives back those of its items that have no comma and are trimmed, and
nothing else that it gives is one of the items. -/

namespace InventorySearch.Text

theorem cutAt_eq_splitOn (separator : Char) (cs : List Char) : cutAt separator cs = cs.splitOn separator := by
  induction cs with
  | nil => rfl
  | cons c cs ih =>
      rw [cutAt, ih, List.splitOn_cons_eq_if_modifyHead]
      by_cases heq : c = separator
      · simp [heq]
      · cases hpieces : cs.splitOn separator with
        | nil => exact absurd hpieces (List.splitOn_ne_nil separator cs)
        | cons piece pieces => simp [heq]

theorem cutAt_intercalate {separator : Char} {pieces : List (List Char)} (hne : pieces ≠ [])
    (h : ∀ piece ∈ pieces, separator ∉ piece) : cutAt separator ([separator].intercalate pieces) = pieces := by
  rw [cutAt_eq_splitOn, List.splitOn_intercalate separator h hne]

theorem cutFirst_append {separator : Char} {first : List Char} (h : separator ∉ first) (rest : List Char) :
    cutFirst separator (first ++ separator :: rest) = (first, rest) := by
  have hkeep : ∀ c ∈ first, decide (c ≠ separator) = true := by
    intro c hc
    exact decide_eq_true fun heq => h (heq ▸ hc)
  rw [cutFirst, List.takeWhile_append_of_pos hkeep, List.dropWhile_append_of_pos hkeep]
  simp

theorem cutAt_ne_nil (separator : Char) (cs : List Char) : cutAt separator cs ≠ [] := by
  rw [cutAt_eq_splitOn]
  exact List.splitOn_ne_nil separator cs

/-- Cutting at a separator cuts what stands before it and what stands behind it. -/
theorem cutAt_append (separator : Char) (first rest : List Char) :
    cutAt separator (first ++ separator :: rest) = cutAt separator first ++ cutAt separator rest := by
  induction first with
  | nil => simp [cutAt]
  | cons c first ih =>
      rw [List.cons_append, cutAt, cutAt, ih]
      by_cases heq : c = separator
      · simp [heq]
      · cases hpieces : cutAt separator first with
        | nil => exact absurd hpieces (cutAt_ne_nil separator first)
        | cons piece pieces => simp [heq]

theorem cutAt_of_not_mem {separator : Char} {cs : List Char} (h : separator ∉ cs) : cutAt separator cs = [cs] := by
  simpa using cutAt_intercalate (List.cons_ne_nil cs []) (by simpa using h)

theorem not_mem_of_mem_cutAt {separator : Char} {cs piece : List Char} (h : piece ∈ cutAt separator cs) :
    separator ∉ piece := by
  induction cs generalizing piece with
  | nil =>
      cases List.mem_singleton.mp h
      exact List.not_mem_nil
  | cons c cs ih =>
      rw [cutAt] at h
      split_ifs at h with heq
      · rcases List.mem_cons.mp h with rfl | h
        · exact List.not_mem_nil
        · exact ih h
      · cases hpieces : cutAt separator cs with
        | nil => exact absurd hpieces (cutAt_ne_nil separator cs)
        | cons first pieces =>
            rw [hpieces] at h ih
            rcases List.mem_cons.mp h with rfl | h
            · simpa [Ne.symm heq] using ih List.mem_cons_self
            · exact ih (List.mem_cons_of_mem _ h)

/-! ### Comma-separated lists -/

/-- A text that can be an item of a comma-separated list. -/
def IsListItem (s : String) : Prop := s ≠ "" ∧ ',' ∉ s.toList ∧ trim s = s

instance (s : String) : Decidable (IsListItem s) := inferInstanceAs (Decidable (_ ∧ _))

theorem commaList_of_isListItem {s : String} (h : IsListItem s) : commaList s = [s] := by
  obtain ⟨hne, hcomma, htrim⟩ := h
  rw [commaList, cutAt_of_not_mem hcomma, List.map_singleton]
  change List.filter _ [trim s] = [s]
  rw [htrim]
  simpa using hne

theorem isListItem_of_mem_commaList {s item : String} (h : item ∈ commaList s) : IsListItem item := by
  obtain ⟨hmem, hne⟩ := List.mem_filter.mp h
  obtain ⟨piece, hpiece, rfl⟩ := List.mem_map.mp hmem
  refine ⟨by simpa using hne, ?_, ?_⟩
  · rw [String.toList_ofList]
    exact fun hcomma => not_mem_of_mem_cutAt hpiece (mem_of_mem_trimChars hcomma)
  · rw [trim, String.toList_ofList, trimChars_trimChars]

theorem commaList_append_comma (s t : String) : commaList (s ++ "," ++ t) = commaList s ++ commaList t := by
  have htext : (s ++ "," ++ t).toList = s.toList ++ ',' :: t.toList := by simp
  rw [commaList, htext, cutAt_append, List.map_append, List.filter_append]
  rfl

/-- What a comma-separated list gives for each of its items stands one after another. -/
theorem commaList_intercalate_eq_flatMap (items : List String) :
    commaList (String.intercalate "," items) = items.flatMap commaList := by
  induction items with
  | nil => rfl
  | cons item items ih =>
      cases items with
      | nil => simp
      | cons next items => rw [List.flatMap_cons, String.intercalate_cons_cons, commaList_append_comma, ih]

/-- The items of a comma-separated list are read back. -/
theorem commaList_intercalate {items : List String} (h : ∀ item ∈ items, IsListItem item) :
    commaList (String.intercalate "," items) = items := by
  calc commaList (String.intercalate "," items)
    _ = items.flatMap commaList := commaList_intercalate_eq_flatMap items
    _ = items.flatMap fun item => [item] :=
        List.flatMap_congr fun item hitem => commaList_of_isListItem (h item hitem)
    _ = items := List.flatMap_singleton' items

end InventorySearch.Text
