import InventorySearch.Proofs.Text.Pieces
import InventorySearch.Service.PathLabel
import InventorySearch.Service.Route
import Mathlib.Data.List.Chain
import Mathlib.Data.List.Forall2

/-! Which labels of paths have numbers in them. The label of a path has a number exactly when two numbers follow
each other in the path, since an id takes the slash behind it along. No path that leads somewhere has two such
numbers, and a second labelling leaves no number of any path. -/

namespace InventorySearch.Service

/-! ### Numbers among segments -/

/-- No two numbers follow each other among segments. -/
def NumbersApart (segments : List (List Char)) : Prop :=
  segments.IsChain fun a b => ¬(isNumberSegment a = true ∧ isNumberSegment b = true)

theorem isNumberSegment_idPlaceholder : isNumberSegment idPlaceholder = false := by decide

theorem numbersApart_cons {segment : List Char} {rest : List (List Char)} :
    NumbersApart (segment :: rest) ↔
      (isNumberSegment segment = true → ∀ next ∈ rest.head?, isNumberSegment next = false) ∧ NumbersApart rest := by
  rw [NumbersApart, List.isChain_cons]
  simp only [not_and, Bool.not_eq_true, NumbersApart]
  tauto

theorem numbersApart_cons_of_not {segment : List Char} {rest : List (List Char)}
    (h : isNumberSegment segment = false) : NumbersApart (segment :: rest) ↔ NumbersApart rest := by
  rw [numbersApart_cons, h]
  simp

theorem numbersApart_append_of_not {words rest : List (List Char)}
    (h : ∀ word ∈ words, isNumberSegment word = false) : NumbersApart (words ++ rest) ↔ NumbersApart rest := by
  induction words with
  | nil => rfl
  | cons word words ih =>
      obtain ⟨hword, hwords⟩ := List.forall_mem_cons.mp h
      rw [List.cons_append, numbersApart_cons_of_not hword, ih hwords]

/-! ### Ids -/

theorem replaceIds_cons_of_not {segment : List Char} {rest : List (List Char)}
    (h : isNumberSegment segment = false) : replaceIds (segment :: rest) = segment :: replaceIds rest := by
  rw [replaceIds.eq_def]
  exact if_neg (by simp [h])

theorem replaceIds_append_of_not {words : List (List Char)} (h : ∀ word ∈ words, isNumberSegment word = false)
    (rest : List (List Char)) : replaceIds (words ++ rest) = words ++ replaceIds rest := by
  induction words with
  | nil => rfl
  | cons word words ih =>
      obtain ⟨hword, hwords⟩ := List.forall_mem_cons.mp h
      rw [List.cons_append, replaceIds_cons_of_not hword, ih hwords, List.cons_append]

/-- What a segment leaves in a label: itself, or for a number maybe the placeholder. -/
def LeftOf (out segment : List Char) : Prop :=
  out = segment ∨ out = idPlaceholder ∧ isNumberSegment segment = true

theorem forall₂_leftOf_replaceIds (segments : List (List Char)) :
    List.Forall₂ LeftOf (replaceIds segments) segments := by
  fun_induction replaceIds segments with
  | case1 => exact .nil
  | case2 segment hnumber => exact .cons (.inr ⟨rfl, hnumber⟩) .nil
  | case3 segment hnumber next more ih => exact .cons (.inr ⟨rfl, hnumber⟩) (.cons (.inl rfl) ih)
  | case4 segment rest _ ih => exact .cons (.inl rfl) ih

/-- Words in a label have been there before. -/
theorem exists_eq_append_of_forall₂ {words outs segments : List (List Char)} (hwords : idPlaceholder ∉ words)
    (h : List.Forall₂ LeftOf (words ++ outs) segments) :
    ∃ rest, segments = words ++ rest ∧ List.Forall₂ LeftOf outs rest := by
  induction words generalizing segments with
  | nil => exact ⟨segments, rfl, h⟩
  | cons word words ih =>
      obtain ⟨hword, hwords⟩ := not_or.mp (mt List.mem_cons.mpr hwords)
      obtain _ | ⟨hleft, hmore⟩ := h
      obtain rfl := hleft.resolve_right fun hid => hword hid.1.symm
      obtain ⟨rest, rfl, hrest⟩ := ih hwords hmore
      exact ⟨rest, rfl, hrest⟩

theorem mem_replaceIds {segments : List (List Char)} {out : List Char} (h : out ∈ replaceIds segments) :
    out ∈ segments ∨ out = idPlaceholder := by
  fun_induction replaceIds segments with
  | case1 => cases h
  | case2 => exact .inr (List.mem_singleton.mp h)
  | case3 segment _ next more ih =>
      simp only [List.mem_cons] at h ⊢
      tauto
  | case4 segment rest _ ih =>
      simp only [List.mem_cons] at h ⊢
      tauto

theorem isNumberSegment_head_replaceIds (segments : List (List Char)) :
    ∀ segment ∈ (replaceIds segments).head?, isNumberSegment segment = false := by
  fun_induction replaceIds segments with
  | case1 => exact nofun
  | case2 => simp [isNumberSegment_idPlaceholder]
  | case3 => simp [isNumberSegment_idPlaceholder]
  | case4 segment rest hnumber _ => simpa using hnumber

/-- No number is left exactly when no two follow each other: of a run of numbers every second one stays. -/
theorem forall_mem_replaceIds_iff {segments : List (List Char)} :
    (∀ segment ∈ replaceIds segments, isNumberSegment segment = false) ↔ NumbersApart segments := by
  fun_induction replaceIds segments with
  | case1 => simp [NumbersApart]
  | case2 segment _ => simp [NumbersApart, isNumberSegment_idPlaceholder]
  | case3 segment hnumber next more ih =>
      rw [List.forall_mem_cons, List.forall_mem_cons, ih, numbersApart_cons]
      simp only [isNumberSegment_idPlaceholder, true_and, hnumber, List.head?_cons, Option.mem_some_iff, forall_eq',
        forall_const]
      exact and_congr_right fun hnext => (numbersApart_cons_of_not hnext).symm
  | case4 segment rest hnumber ih =>
      have hword : isNumberSegment segment = false := by simpa using hnumber
      rw [List.forall_mem_cons, ih, numbersApart_cons_of_not hword]
      exact and_iff_right hword

/-- Once ids are replaced, no two numbers follow each other any more. -/
theorem numbersApart_replaceIds (segments : List (List Char)) : NumbersApart (replaceIds segments) := by
  fun_induction replaceIds segments with
  | case1 => exact .nil
  | case2 => exact .singleton _
  | case3 segment _ next more ih =>
      rw [numbersApart_cons_of_not isNumberSegment_idPlaceholder, numbersApart_cons]
      exact ⟨fun _ => isNumberSegment_head_replaceIds more, ih⟩
  | case4 segment rest hnumber ih => exact (numbersApart_cons_of_not (by simpa using hnumber)).mpr ih

/-- Replacing ids changes nothing exactly when there is no number. -/
theorem replaceIds_eq_self_iff {segments : List (List Char)} :
    replaceIds segments = segments ↔ ∀ segment ∈ segments, isNumberSegment segment = false := by
  constructor
  · intro heq
    fun_induction replaceIds segments with
    | case1 => exact List.forall_mem_nil _
    | case2 segment hnumber =>
        cases heq
        rw [isNumberSegment_idPlaceholder] at hnumber
        cases hnumber
    | case3 segment hnumber next more _ =>
        rw [← (List.cons.inj heq).1, isNumberSegment_idPlaceholder] at hnumber
        cases hnumber
    | case4 segment rest hnumber ih =>
        exact List.forall_mem_cons.mpr ⟨by simpa using hnumber, ih (List.cons.inj heq).2⟩
  · intro h
    induction segments with
    | nil => rfl
    | cons segment rest ih =>
        obtain ⟨hword, hrest⟩ := List.forall_mem_cons.mp h
        rw [replaceIds_cons_of_not hword, ih hrest]

/-! ### The name of a group -/

/-- The words before the name of a group. -/
def groupWords : List (List Char) := ["api".toList, "v1".toList, "groups".toList]

theorem isNumberSegment_of_mem_groupWords : ∀ word ∈ groupWords, isNumberSegment word = false := by decide

theorem replaceGroupName_of_name {name : List Char} (h : name ≠ []) (rest : List (List Char)) :
    replaceGroupName ([] :: (groupWords ++ name :: rest)) = [] :: (groupWords ++ namePlaceholder :: rest) :=
  if_pos ⟨rfl, rfl, rfl, rfl, h⟩

theorem replaceGroupName_of_no_name {pieces : List (List Char)}
    (h : ∀ name rest, pieces = [] :: (groupWords ++ name :: rest) → name = []) :
    replaceGroupName pieces = pieces := by
  unfold replaceGroupName
  split
  next start api version groups name rest =>
    refine if_neg ?_
    rintro ⟨rfl, rfl, rfl, rfl, hname⟩
    exact hname (h name rest rfl)
  · rfl

/-- The pieces of a path name a group or do not. -/
theorem namesGroup_or_not (pieces : List (List Char)) :
    (∃ name rest, name ≠ [] ∧ pieces = [] :: (groupWords ++ name :: rest)) ∨
      ∀ name rest, pieces = [] :: (groupWords ++ name :: rest) → name = [] := by
  by_cases h : ∃ name rest, name ≠ [] ∧ pieces = [] :: (groupWords ++ name :: rest)
  · exact .inl h
  · refine .inr fun name rest heq => ?_
    by_contra hname
    exact h ⟨name, rest, hname, heq⟩

theorem mem_replaceGroupName {pieces : List (List Char)} {out : List Char} (h : out ∈ replaceGroupName pieces) :
    out ∈ pieces ∨ out = namePlaceholder := by
  rcases namesGroup_or_not pieces with ⟨name, rest, hname, rfl⟩ | hnone
  · rw [replaceGroupName_of_name hname] at h
    simp only [List.mem_cons, List.mem_append] at h ⊢
    tauto
  · rw [replaceGroupName_of_no_name hnone] at h
    exact .inl h

theorem replaceGroupName_ne_nil {pieces : List (List Char)} (h : pieces ≠ []) : replaceGroupName pieces ≠ [] := by
  rcases namesGroup_or_not pieces with ⟨name, rest, hname, rfl⟩ | hnone
  · rw [replaceGroupName_of_name hname]
    exact List.cons_ne_nil _ _
  · rwa [replaceGroupName_of_no_name hnone]

/-- The name of a group is replaced once and for all, also when ids are replaced behind it. -/
theorem replaceGroupName_replaceIds {pieces named : List (List Char)} {start : List Char}
    (h : replaceGroupName pieces = start :: named) :
    replaceGroupName (start :: replaceIds named) = start :: replaceIds named := by
  rcases namesGroup_or_not pieces with ⟨name, rest, hname, rfl⟩ | hnone
  · rw [replaceGroupName_of_name hname] at h
    obtain ⟨rfl, rfl⟩ := List.cons.inj h
    rw [replaceIds_append_of_not isNumberSegment_of_mem_groupWords, replaceIds_cons_of_not (by decide)]
    exact replaceGroupName_of_name (by decide) _
  · rw [replaceGroupName_of_no_name hnone] at h
    refine replaceGroupName_of_no_name fun name rest heq => ?_
    obtain ⟨rfl, hwords⟩ := List.cons.inj heq
    have hleft := forall₂_leftOf_replaceIds named
    rw [hwords] at hleft
    obtain ⟨more, rfl, _ | ⟨hname, _⟩⟩ := exists_eq_append_of_forall₂ (by decide) hleft
    -- The name has been empty before, and what is empty is no number.
    obtain rfl := hnone _ _ h
    rcases hname with rfl | ⟨_, hnumber⟩
    · rfl
    · cases hnumber

/-! ### Labels -/

/-- The segments of a path, each of which stands behind a slash. -/
def segments (path : String) : List (List Char) := (Text.cutAt '/' path.toList).tail

/-- No segment of a path is a number. -/
def HasNoNumber (path : String) : Prop := ∀ segment ∈ segments path, isNumberSegment segment = false

theorem joinSegments_eq_intercalate (pieces : List (List Char)) : joinSegments pieces = ['/'].intercalate pieces := by
  fun_induction joinSegments pieces with
  | case1 => rfl
  | case2 => simp
  | case3 segment rest hne ih =>
      rw [ih]
      obtain ⟨next, rest, rfl⟩ := List.exists_cons_of_ne_nil (fun h => hne h)
      simp

/-- Labelling adds no slash: its placeholders have none. -/
theorem slash_not_mem_label {path : String} {start : List Char} {named : List (List Char)}
    (h : replaceGroupName (Text.cutAt '/' path.toList) = start :: named) :
    ∀ piece ∈ start :: replaceIds named, '/' ∉ piece := by
  have hnamed : ∀ piece ∈ start :: named, '/' ∉ piece := by
    intro piece hpiece
    rw [← h] at hpiece
    rcases mem_replaceGroupName hpiece with hpiece | rfl
    · exact Text.not_mem_of_mem_cutAt hpiece
    · decide
  obtain ⟨hstart, hnamed⟩ := List.forall_mem_cons.mp hnamed
  refine List.forall_mem_cons.mpr ⟨hstart, fun piece hpiece => ?_⟩
  rcases mem_replaceIds hpiece with hpiece | rfl
  · exact hnamed piece hpiece
  · decide

section Label

variable {path : String} {start : List Char} {named : List (List Char)}
  (h : replaceGroupName (Text.cutAt '/' path.toList) = start :: named)
include h

theorem pathLabel_eq : pathLabel path = String.ofList (joinSegments (start :: replaceIds named)) := by
  rw [pathLabel, h]

theorem cutAt_pathLabel : Text.cutAt '/' (pathLabel path).toList = start :: replaceIds named := by
  rw [pathLabel_eq h, String.toList_ofList, joinSegments_eq_intercalate]
  exact Text.cutAt_intercalate (List.cons_ne_nil _ _) (slash_not_mem_label h)

theorem segments_pathLabel : segments (pathLabel path) = replaceIds named := by
  rw [segments, cutAt_pathLabel h, List.tail_cons]

/-- Of a label only the numbers that are left are replaced. -/
theorem replaceGroupName_pathLabel :
    replaceGroupName (Text.cutAt '/' (pathLabel path).toList) = start :: replaceIds named := by
  rw [cutAt_pathLabel h, replaceGroupName_replaceIds h]

theorem pathLabel_pathLabel_eq_iff : pathLabel (pathLabel path) = pathLabel path ↔ NumbersApart named := by
  have hagain : segments (pathLabel (pathLabel path)) = replaceIds (replaceIds named) :=
    segments_pathLabel (replaceGroupName_pathLabel h)
  rw [← forall_mem_replaceIds_iff, ← replaceIds_eq_self_iff]
  constructor
  · intro heq
    rw [← hagain, heq, segments_pathLabel h]
  · intro heq
    rw [pathLabel_eq (replaceGroupName_pathLabel h), heq, ← pathLabel_eq h]

end Label

/-! ### Paths -/

instance (segments : List (List Char)) : Decidable (NumbersApart segments) :=
  inferInstanceAs (Decidable (List.IsChain _ _))

/-- Two numbers follow each other among the segments of a path, and the first of them is not the name of a
group. -/
def NumbersMeet (path : String) : Prop :=
  ∃ before a b after, Text.cutAt '/' path.toList = before ++ a :: b :: after ∧ before ≠ [] ∧
    before ≠ [] :: groupWords ∧ isNumberSegment a = true ∧ isNumberSegment b = true

theorem numbersApart_iff_forall {segments : List (List Char)} :
    NumbersApart segments ↔ ∀ before a b after, segments = before ++ a :: b :: after →
      isNumberSegment a = true → isNumberSegment b = true → False := by
  rw [NumbersApart, List.isChain_iff_forall_rel_of_append_cons_cons]
  constructor
  · exact fun h before a b after heq ha hb => h heq ⟨ha, hb⟩
  · exact fun h a b before after heq hab => h before a b after heq hab.1 hab.2

theorem numbersApart_iff {path : String} {start : List Char} {named : List (List Char)}
    (h : replaceGroupName (Text.cutAt '/' path.toList) = start :: named) :
    NumbersApart named ↔ ¬NumbersMeet path := by
  rcases namesGroup_or_not (Text.cutAt '/' path.toList) with ⟨name, rest, hname, hpath⟩ | hnone
  · rw [hpath, replaceGroupName_of_name hname] at h
    obtain ⟨_, rfl⟩ := List.cons.inj h
    rw [numbersApart_append_of_not isNumberSegment_of_mem_groupWords, numbersApart_cons_of_not (by decide),
      numbersApart_iff_forall]
    constructor
    · rintro hrest ⟨before, a, b, after, hsplit, hbefore, hwords, ha, hb⟩
      obtain ⟨first, before, rfl⟩ := List.exists_cons_of_ne_nil hbefore
      rw [hpath] at hsplit
      obtain ⟨rfl, hbehind⟩ := List.cons.inj hsplit
      -- The first number stands behind the name, as no word before it is a number.
      rcases List.append_eq_append_iff.mp hbehind with ⟨_ | ⟨_, l⟩, rfl, hrest'⟩ | ⟨_ | ⟨word, l⟩, heq, hrest'⟩
      · exact hwords (by rw [List.append_nil])
      · exact hrest l a b after (List.cons.inj hrest').2 ha hb
      · exact hwords (by rw [heq, List.append_nil])
      · rw [(List.cons.inj hrest').1, isNumberSegment_of_mem_groupWords word (by rw [heq]; simp)] at ha
        cases ha
    · rintro hmeet before a b after rfl ha hb
      refine hmeet ⟨[] :: (groupWords ++ name :: before), a, b, after, by rw [hpath]; simp, List.cons_ne_nil _ _, ?_,
        ha, hb⟩
      exact fun heq => List.cons_ne_nil _ _ (List.append_right_eq_self.mp (List.cons.inj heq).2)
  · rw [replaceGroupName_of_no_name hnone] at h
    rw [numbersApart_iff_forall]
    constructor
    · rintro hnamed ⟨before, a, b, after, hsplit, hbefore, _, ha, hb⟩
      obtain ⟨first, before, rfl⟩ := List.exists_cons_of_ne_nil hbefore
      rw [h] at hsplit
      exact hnamed before a b after (List.cons.inj hsplit).2 ha hb
    · rintro hmeet before a b after rfl ha hb
      refine hmeet ⟨start :: before, a, b, after, h, List.cons_ne_nil _ _, fun heq => ?_, ha, hb⟩
      obtain ⟨rfl, rfl⟩ := List.cons.inj heq
      obtain rfl := hnone a (b :: after) h
      cases ha

theorem NumbersMeet.not_numbersApart {path : String} (h : NumbersMeet path) : ¬NumbersApart (segments path) := by
  obtain ⟨before, a, b, after, hsplit, hbefore, _, ha, hb⟩ := h
  obtain ⟨first, before, rfl⟩ := List.exists_cons_of_ne_nil hbefore
  intro hapart
  exact numbersApart_iff_forall.mp hapart before a b after (by rw [segments, hsplit]; rfl) ha hb

/-! ### Routes -/

theorem numbersApart_of_ofGroupSegments? {segments : List String} {route : Route}
    (h : Route.ofGroupSegments? segments = some route) : NumbersApart (segments.map String.toList) := by
  have hbehind : ∀ (name : String) (rest : List (List Char)), NumbersApart rest →
      NumbersApart (name.toList :: "members".toList :: rest) := by
    intro name rest hrest
    rw [numbersApart_cons, numbersApart_cons_of_not (by decide)]
    refine ⟨fun _ next hnext => ?_, hrest⟩
    cases hnext
    decide
  unfold Route.ofGroupSegments? at h
  split at h
  · exact .nil
  · exact .singleton _
  next name => exact hbehind name [] .nil
  next name id => exact hbehind name [id.toList] (.singleton _)
  · cases h

/-- Of two segments of a route one is a word. -/
theorem numbersApart_of_ofSegments? {segments : List String} {route : Route}
    (h : Route.ofSegments? segments = some route) : NumbersApart (segments.map String.toList) := by
  unfold Route.ofSegments? at h
  split at h
  next rest =>
    have hrest : NumbersApart (rest.map String.toList) := by
      unfold Route.ofInterfaceSegments? at h
      split at h
      · exact .singleton _
      · decide
      next rest =>
        rw [List.map_cons, numbersApart_cons_of_not (by decide)]
        exact numbersApart_of_ofGroupSegments? h
      · exact .singleton _
      · decide
      · cases h
    rwa [List.map_cons, List.map_cons, numbersApart_cons_of_not (by decide), numbersApart_cons_of_not (by decide)]
  · exact .singleton _
  · exact .singleton _
  · exact .singleton _
  · cases h

theorem numbersApart_of_ofPath? {path : String} {route : Route} (h : Route.ofPath? path = some route) :
    NumbersApart (segments path) := by
  unfold Route.ofPath? at h
  split at h
  next rest hpieces =>
    have hsegments : segments path = rest.map String.toList := by
      have hmap := congrArg (fun pieces : List String => (pieces.map String.toList).tail) hpieces
      simpa [Text.pieces, segments] using hmap
    rw [hsegments]
    exact numbersApart_of_ofSegments? h
  · cases h

/-- The label of a path has no number, and is its own label, exactly when no two numbers follow each other in the
path, the name of a group aside. The label of a label never has a number, and neither has the label of a path that
leads somewhere. -/
theorem label_has_no_number_iff (path : String) :
    (HasNoNumber (pathLabel path) ↔ ¬NumbersMeet path) ∧
      (pathLabel (pathLabel path) = pathLabel path ↔ ¬NumbersMeet path) ∧
      HasNoNumber (pathLabel (pathLabel path)) ∧
      ∀ route, Route.ofPath? path = some route → ¬NumbersMeet path := by
  obtain ⟨start, named, h⟩ :=
    List.exists_cons_of_ne_nil (replaceGroupName_ne_nil (Text.cutAt_ne_nil '/' path.toList))
  rw [← numbersApart_iff h]
  refine ⟨?_, pathLabel_pathLabel_eq_iff h, ?_, fun route hroute => ?_⟩
  · rw [HasNoNumber, segments_pathLabel h]
    exact forall_mem_replaceIds_iff
  · rw [HasNoNumber, segments_pathLabel (replaceGroupName_pathLabel h)]
    exact forall_mem_replaceIds_iff.mpr (numbersApart_replaceIds named)
  · rw [numbersApart_iff h]
    exact fun hmeet => hmeet.not_numbersApart (numbersApart_of_ofPath? hroute)

/-- Of two numbers in a path that leads nowhere the second stays in the label, and a second labelling replaces
it. -/
theorem second_number_stays :
    pathLabel "/1/2" = "/\x7bid\x7d/2" ∧ ¬HasNoNumber (pathLabel "/1/2") ∧
      pathLabel (pathLabel "/1/2") ≠ pathLabel "/1/2" := by
  have hmeet : NumbersMeet "/1/2" := ⟨[[]], ['1'], ['2'], [], by decide, by decide, by decide, by decide, by decide⟩
  obtain ⟨hnumber, hagain, _⟩ := label_has_no_number_iff "/1/2"
  exact ⟨by decide, fun h => hnumber.mp h hmeet, fun h => hagain.mp h hmeet⟩

end InventorySearch.Service
