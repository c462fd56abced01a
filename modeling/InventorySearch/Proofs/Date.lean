import InventorySearch.Proofs.Order
import InventorySearch.Proofs.Text.Blank
import InventorySearch.Proofs.Text.Digit

/-! The written form of dates. A text is read as a date exactly when, blanks around it aside, it writes a day
of the calendar with four, two and two ASCII digits. The written form of the date is then the text again, and
dates are ordered as their written forms are. -/

namespace InventorySearch

/-- A year of 366 days: every fourth one, but of those that a hundred divides only every fourth. -/
def IsLongYear (year : Nat) : Prop := 4 ∣ year ∧ (100 ∣ year → 400 ∣ year)

/-- The days of the Gregorian calendar, which is extended backwards. -/
def IsCalendarDay (year month day : Nat) : Prop :=
  1 ≤ day ∧
    (month ∈ [1, 3, 5, 7, 8, 10, 12] ∧ day ≤ 31 ∨ month ∈ [4, 6, 9, 11] ∧ day ≤ 30 ∨
      month = 2 ∧ (day ≤ 28 ∨ day = 29 ∧ IsLongYear year))

/-- Characters write a year, a month and a day with four, two and two ASCII digits and hyphens between. -/
def WritesDay (cs : List Char) (year month day : Nat) : Prop :=
  ∃ ys ms ds : List Char, cs = ys ++ '-' :: (ms ++ '-' :: ds) ∧
    (ys.length = 4 ∧ ms.length = 2 ∧ ds.length = 2) ∧ (∀ c ∈ ys ++ ms ++ ds, c.isDigit = true) ∧
    (Nat.ofDigitChars 10 ys 0 = year ∧ Nat.ofDigitChars 10 ms 0 = month ∧ Nat.ofDigitChars 10 ds 0 = day)

theorem isLeapYear_iff {year : Nat} : isLeapYear year = true ↔ IsLongYear year := by
  simp only [isLeapYear, IsLongYear, Bool.and_eq_true, Bool.or_eq_true, beq_iff_eq, bne_iff_ne]
  omega

theorem le_daysInMonth_iff {year month day : Nat} :
    1 ≤ day ∧ day ≤ daysInMonth year month ↔ IsCalendarDay year month day := by
  simp only [IsCalendarDay, List.mem_cons, List.not_mem_nil, or_false, ← isLeapYear_iff]
  refine and_congr_right fun hday => ?_
  unfold daysInMonth
  split <;> grind

namespace Date

variable {d : Date} {cs : List Char}

theorem isCalendarDay (d : Date) : IsCalendarDay d.year d.month d.day :=
  le_daysInMonth_iff.mp ⟨d.day_pos, d.day_le⟩

/-! ### Numbers with zeros before them -/

theorem length_padded {width n : Nat} (h : (Nat.toDigits 10 n).length ≤ width) :
    (padded width n).length = width := by
  rw [padded, List.length_append, List.length_replicate]
  omega

theorem isDigit_of_mem_padded {width n : Nat} {c : Char} (hc : c ∈ padded width n) : c.isDigit = true := by
  rcases List.mem_append.mp hc with hzero | hdigit
  · rw [List.eq_of_mem_replicate hzero]
    rfl
  · exact Nat.isDigit_of_mem_toDigits (by decide) (by decide) hdigit

theorem ofDigitChars_padded (width n : Nat) : Nat.ofDigitChars 10 (padded width n) 0 = n := by
  have hzeros : ∀ count, Nat.ofDigitChars 10 (List.replicate count '0') 0 = 0 := by
    intro count
    induction count with
    | zero => rfl
    | succ count ih => rw [List.replicate_succ, Nat.ofDigitChars_cons]; exact ih
  rw [padded, Nat.ofDigitChars_append, hzeros, Nat.ofDigitChars_ten_toDigits]

theorem eq_padded {width n : Nat} (hwidth : (Nat.toDigits 10 n).length ≤ width) (hlength : cs.length = width)
    (hdigits : ∀ c ∈ cs, c.isDigit = true) (hvalue : Nat.ofDigitChars 10 cs 0 = n) : cs = padded width n := by
  rw [← Text.digitsValue_inj (hlength.trans (length_padded hwidth).symm) hdigits fun c => isDigit_of_mem_padded]
  exact hvalue.trans (ofDigitChars_padded width n).symm

section SameWidth

variable {width m n : Nat} (hm : (Nat.toDigits 10 m).length ≤ width) (hn : (Nat.toDigits 10 n).length ≤ width)
include hm hn

theorem padded_lt_padded_iff : padded width m < padded width n ↔ m < n := by
  rw [← Text.digitsValue_lt_iff ((length_padded hm).trans (length_padded hn).symm)
    (fun c => isDigit_of_mem_padded) fun c => isDigit_of_mem_padded]
  show Nat.ofDigitChars 10 _ 0 < Nat.ofDigitChars 10 _ 0 ↔ _
  rw [ofDigitChars_padded, ofDigitChars_padded]

theorem padded_inj : padded width m = padded width n ↔ m = n := by
  rw [← Text.digitsValue_inj ((length_padded hm).trans (length_padded hn).symm)
    (fun c => isDigit_of_mem_padded) fun c => isDigit_of_mem_padded]
  show Nat.ofDigitChars 10 _ 0 = Nat.ofDigitChars 10 _ 0 ↔ _
  rw [ofDigitChars_padded, ofDigitChars_padded]

end SameWidth

/-- The numbers of a date fit into the places that its written form has for them. -/
theorem widths (d : Date) : (Nat.toDigits 10 d.year).length ≤ 4 ∧ (Nat.toDigits 10 d.month).length ≤ 2 ∧
    (Nat.toDigits 10 d.day).length ≤ 2 := by
  have hyear := d.year_le
  have hday := d.isCalendarDay
  simp only [IsCalendarDay, List.mem_cons, List.not_mem_nil, or_false] at hday
  refine ⟨?_, ?_, ?_⟩
  all_goals
    rw [Nat.length_toDigits_le_iff (by decide) (by decide)]
    omega

/-! ### The written form -/

theorem toChars_eq (d : Date) :
    d.toChars = padded 4 d.year ++ '-' :: (padded 2 d.month ++ '-' :: padded 2 d.day) := by
  rw [toChars, List.append_assoc, List.cons_append]

/-- The written form is the only way to write the numbers of a date. -/
theorem writesDay_iff : WritesDay cs d.year d.month d.day ↔ cs = d.toChars := by
  obtain ⟨hyear, hmonth, hday⟩ := d.widths
  rw [toChars_eq]
  constructor
  · rintro ⟨ys, ms, ds, rfl, ⟨hys, hms, hds⟩, hdigits, hy, hm, hd⟩
    rw [eq_padded hyear hys (fun c hc => hdigits c (by simp [hc])) hy,
      eq_padded hmonth hms (fun c hc => hdigits c (by simp [hc])) hm,
      eq_padded hday hds (fun c hc => hdigits c (by simp [hc])) hd]
  · rintro rfl
    refine ⟨_, _, _, rfl, ⟨length_padded hyear, length_padded hmonth, length_padded hday⟩, ?_,
      ofDigitChars_padded _ _, ofDigitChars_padded _ _, ofDigitChars_padded _ _⟩
    intro c hc
    rcases List.mem_append.mp hc with hc | hc
    · rcases List.mem_append.mp hc with hc | hc <;> exact isDigit_of_mem_padded hc
    · exact isDigit_of_mem_padded hc

theorem groups?_eq_some_iff {ys ms ds : List Char} :
    groups? cs = some (ys, ms, ds) ↔ cs = ys ++ '-' :: (ms ++ '-' :: ds) ∧
      (ys.length = 4 ∧ ms.length = 2 ∧ ds.length = 2) ∧
      ∀ c ∈ ys ++ ms ++ ds, Text.isDecimalDigit c = true := by
  constructor
  · intro h
    unfold groups? at h
    split at h
    next y1 y2 y3 y4 h1 m1 m2 h2 d1 d2 =>
      split at h
      next hshape =>
        obtain ⟨rfl, rfl, hdigits⟩ := hshape
        cases h
        exact ⟨rfl, ⟨rfl, rfl, rfl⟩, List.all_eq_true.mp hdigits⟩
      · cases h
    · cases h
  · rintro ⟨rfl, ⟨hys, hms, hds⟩, hdigits⟩
    match ys, hys, ms, hms, ds, hds with
    | [y1, y2, y3, y4], _, [m1, m2], _, [d1, d2], _ =>
      exact if_pos ⟨rfl, rfl, List.all_eq_true.mpr hdigits⟩

theorem ofNumbers?_eq_some_iff {year month day : Nat} :
    ofNumbers? year month day = some d ↔ year = d.year ∧ month = d.month ∧ day = d.day := by
  constructor
  · intro h
    unfold ofNumbers? at h
    split at h <;> cases h
    exact ⟨rfl, rfl, rfl⟩
  · rintro ⟨rfl, rfl, rfl⟩
    exact dif_pos ⟨d.year_le, d.day_pos, d.day_le⟩

theorem ofGroups?_eq_some_iff {ys ms ds : List Char} :
    ofGroups? ys ms ds = some d ↔ (∀ c ∈ ys ++ ms ++ ds, c.isDigit = true) ∧
      (Nat.ofDigitChars 10 ys 0 = d.year ∧ Nat.ofDigitChars 10 ms 0 = d.month ∧
        Nat.ofDigitChars 10 ds 0 = d.day) := by
  rw [ofGroups?, ← List.all_eq_true]
  split_ifs with hdigits
  · rw [and_iff_right hdigits]
    exact ofNumbers?_eq_some_iff
  · constructor
    · intro h
      cases h
    · rintro ⟨h, _⟩
      exact absurd h hdigits

/-! ### Reading -/

theorem writesDay_trim_iff {raw : String} :
    WritesDay (Text.trim raw).toList d.year d.month d.day ↔ d.toText = Text.trim raw := by
  rw [writesDay_iff, toText, ← String.toList_inj, String.toList_ofList, eq_comm]

/-- A text is read as the date that it writes, blanks around it aside. -/
theorem readDate_eq_ok_iff {raw : String} {v : TypedValue} :
    TypedValue.readDate raw = .ok v ↔
      ∃ d, v = .date d ∧ WritesDay (Text.trim raw).toList d.year d.month d.day := by
  unfold TypedValue.readDate
  rw [Text.trim, String.toList_ofList]
  constructor
  · intro h
    split at h
    · cases h
    next ys ms ds hgroups =>
      split at h <;> cases h
      next d hday =>
        obtain ⟨hchars, hlengths, _⟩ := groups?_eq_some_iff.mp hgroups
        obtain ⟨hdigits, hnumbers⟩ := ofGroups?_eq_some_iff.mp hday
        exact ⟨d, rfl, ys, ms, ds, hchars, hlengths, hdigits, hnumbers⟩
  · rintro ⟨d, rfl, ys, ms, ds, hchars, hlengths, hdigits, hnumbers⟩
    -- The shape is looked at first, and there digits of any script would do.
    have hgroups := groups?_eq_some_iff.mpr
      ⟨hchars, hlengths, fun c hc => Text.isDecimalDigit_of_isDigit (hdigits c hc)⟩
    simp only [hgroups, ofGroups?_eq_some_iff.mpr ⟨hdigits, hnumbers⟩]

/-- A text is read as a date when the written form of the date is left of it without the blanks around. -/
theorem parse_eq_ok_iff {raw param : String} {v : TypedValue} :
    TypedValue.parse .date raw param = .ok v ↔ ∃ d, v = .date d ∧ d.toText = Text.trim raw := by
  rw [TypedValue.parse_eq_ok_iff]
  simp only [← writesDay_trim_iff]
  exact readDate_eq_ok_iff

/-- A day of the calendar that can be written is a date. -/
theorem exists_of_writesDay {year month day : Nat} (hwrites : WritesDay cs year month day)
    (hday : IsCalendarDay year month day) : ∃ d : Date, d.year = year ∧ d.month = month ∧ d.day = day := by
  obtain ⟨hpos, hle⟩ := le_daysInMonth_iff.mpr hday
  obtain ⟨ys, ms, ds, _, ⟨hlength, _, _⟩, hdigits, rfl, _, _⟩ := hwrites
  have hyear : Nat.ofDigitChars 10 ys 0 ≤ 9999 := by
    match ys, hlength, hdigits with
    | [y1, y2, y3, y4], _, hdigits =>
      have h1 := Char.isDigit_iff_toNat.mp (hdigits y1 (by simp))
      have h2 := Char.isDigit_iff_toNat.mp (hdigits y2 (by simp))
      have h3 := Char.isDigit_iff_toNat.mp (hdigits y3 (by simp))
      have h4 := Char.isDigit_iff_toNat.mp (hdigits y4 (by simp))
      simp only [Nat.ofDigitChars_cons, Nat.ofDigitChars_nil, Char.reduceToNat] at h1 h2 h3 h4 ⊢
      omega
  exact ⟨⟨_, _, _, hyear, hpos, hle⟩, rfl, rfl, rfl⟩

/-! ### Order -/

theorem order_eq_lt_iff {a b : Date} :
    a.order b = .lt ↔
      a.year < b.year ∨ a.year = b.year ∧ (a.month < b.month ∨ a.month = b.month ∧ a.day < b.day) := by
  simp only [order, Ordering.then_eq_lt, Nat.compare_eq_lt, Nat.compare_eq_eq]

theorem eq_of_order_eq_eq {a b : Date} (h : a.order b = .eq) : a = b := by
  simp only [order, Ordering.then_eq_eq, Nat.compare_eq_eq] at h
  obtain ⟨year, month, day, _, _, _⟩ := a
  obtain ⟨year', month', day', _, _, _⟩ := b
  obtain ⟨rfl, rfl, rfl⟩ := h
  rfl

theorem toChars_lt_iff {a b : Date} : a.toChars < b.toChars ↔ a.order b = .lt := by
  obtain ⟨hyear, hmonth, hday⟩ := a.widths
  obtain ⟨hyear', hmonth', hday'⟩ := b.widths
  rw [toChars_eq, toChars_eq,
    Text.append_lt_append_iff ((length_padded hyear).trans (length_padded hyear').symm), List.cons_lt_cons_iff,
    Text.append_lt_append_iff ((length_padded hmonth).trans (length_padded hmonth').symm), List.cons_lt_cons_iff,
    padded_lt_padded_iff hyear hyear', padded_inj hyear hyear', padded_lt_padded_iff hmonth hmonth',
    padded_inj hmonth hmonth', padded_lt_padded_iff hday hday', order_eq_lt_iff]
  simp

theorem toText_lt_iff {a b : Date} : a.toText < b.toText ↔ a.order b = .lt := by
  rw [String.lt_iff, toText, toText, String.toList_ofList, String.toList_ofList, toChars_lt_iff]

/-- Dates are compared as their written forms are. -/
theorem compare_eq_compare_toText (a b : Date) : compare a b = compare a.toText b.toText := by
  have hlt : ∀ {a b : Date}, compare a b = .lt → compare a.toText b.toText = .lt := by
    intro a b h
    have htext : a.toText < b.toText := toText_lt_iff.mpr h
    generalize a.toText = s at htext ⊢
    generalize b.toText = t at htext ⊢
    exact compareOfLessAndEq_eq_lt.mpr htext
  cases horder : compare a b with
  | lt => exact (hlt horder).symm
  | eq => rw [eq_of_order_eq_eq horder, Std.ReflOrd.compare_self]
  | gt => exact (Std.OrientedCmp.gt_of_lt (hlt (Std.OrientedCmp.lt_of_gt horder))).symm

end Date

/-- The grammar of dates: a text is read exactly when, blanks around it aside, it writes a day of the calendar.
The written form of the value is that part of the text and is read as the same value, and values are in the
order that these parts of their texts are in. -/
theorem dates_read_as_written (param : String) :
    (∀ raw, (∃ v, TypedValue.parse .date raw param = .ok v) ↔
      ∃ year month day, WritesDay (Text.trim raw).toList year month day ∧ IsCalendarDay year month day) ∧
    (∀ raw v, TypedValue.parse .date raw param = .ok v →
      ∃ d, v = .date d ∧ WritesDay (Text.trim raw).toList d.year d.month d.day ∧ d.toText = Text.trim raw ∧
        TypedValue.parse .date d.toText param = .ok v) ∧
    ∀ raw raw' v v', TypedValue.parse .date raw param = .ok v → TypedValue.parse .date raw' param = .ok v' →
      v.compare? v' = some (compare (Text.trim raw) (Text.trim raw')) := by
  refine ⟨fun raw => ⟨?_, ?_⟩, fun raw v hv => ?_, fun raw raw' v v' hv hv' => ?_⟩
  · rintro ⟨v, hv⟩
    obtain ⟨d, _, htext⟩ := Date.parse_eq_ok_iff.mp hv
    exact ⟨_, _, _, Date.writesDay_trim_iff.mpr htext, d.isCalendarDay⟩
  · rintro ⟨year, month, day, hwrites, hday⟩
    obtain ⟨d, rfl, rfl, rfl⟩ := Date.exists_of_writesDay hwrites hday
    exact ⟨_, Date.parse_eq_ok_iff.mpr ⟨d, rfl, Date.writesDay_trim_iff.mp hwrites⟩⟩
  · obtain ⟨d, rfl, htext⟩ := Date.parse_eq_ok_iff.mp hv
    refine ⟨d, rfl, Date.writesDay_trim_iff.mpr htext, htext, ?_⟩
    rw [htext]
    exact Date.parse_eq_ok_iff.mpr ⟨d, rfl, htext.trans (Text.trim_trim raw).symm⟩
  · obtain ⟨d, rfl, htext⟩ := Date.parse_eq_ok_iff.mp hv
    obtain ⟨d', rfl, htext'⟩ := Date.parse_eq_ok_iff.mp hv'
    rw [← htext, ← htext', ← Date.compare_eq_compare_toText]
    rfl

/-- A leap day among blanks is read, and is before the first of March. -/
theorem leapDay_read_among_blanks : ∃ v w, TypedValue.parse .date "\u2003 2024-02-29\n" "purchased" = .ok v ∧
    TypedValue.parse .date "2024-03-01" "purchased" = .ok w ∧ v.compare? w = some .lt := by
  have hleap : IsLongYear 2024 := ⟨by decide, by decide⟩
  obtain ⟨hreads, _, horder⟩ := dates_read_as_written "purchased"
  obtain ⟨v, hv⟩ := (hreads "\u2003 2024-02-29\n").mpr
    ⟨2024, 2, 29, ⟨['2', '0', '2', '4'], ['0', '2'], ['2', '9'], by decide, by decide, List.all_eq_true.mp rfl,
      by decide⟩, by decide, .inr (.inr ⟨rfl, .inr ⟨rfl, hleap⟩⟩)⟩
  obtain ⟨w, hw⟩ := (hreads "2024-03-01").mpr
    ⟨2024, 3, 1, ⟨['2', '0', '2', '4'], ['0', '3'], ['0', '1'], by decide, by decide, List.all_eq_true.mp rfl,
      by decide⟩, by decide, .inl (by decide)⟩
  refine ⟨v, w, hv, hw, (horder _ _ _ _ hv hw).trans ?_⟩
  decide

end InventorySearch
