import InventorySearch.Proofs.Criterion
import InventorySearch.Proofs.Date
import InventorySearch.Proofs.Number
import InventorySearch.Samples

/-! Stored scalars and submitted texts are read alike: as a text, a whole number or a date, a scalar is read
exactly as the text that it prints. Truth values and doubles always print a letter e or a point, so they are no
whole numbers and no dates in either form. -/

namespace InventorySearch

/-- What a scalar prints: a text itself, a number or a truth value its JSON. -/
def Json.scalarText? : Json → Option String
  | .string s => some s
  | .number n => some (Json.number n).toText
  | .bool b => some (Json.bool b).toText
  | .null | .array _ | .object _ => none

theorem Json.toText_number (n : Json.Number) : (Json.number n).toText = n.toText := by
  rw [toText, chars, String.ofList_toList]

theorem Json.toText_bool (b : Bool) : (Json.bool b).toText = boolText b := by
  rw [toText, chars, String.ofList_toList]

namespace Date

variable {d : Date}

theorem isDigit_or_hyphen_of_mem_toChars {c : Char} (hc : c ∈ d.toChars) : c.isDigit = true ∨ c = '-' := by
  rw [toChars_eq, List.mem_append, List.mem_cons, List.mem_append, List.mem_cons] at hc
  rcases hc with hc | rfl | hc | rfl | hc
  · exact Or.inl (isDigit_of_mem_padded hc)
  · exact Or.inr rfl
  · exact Or.inl (isDigit_of_mem_padded hc)
  · exact Or.inr rfl
  · exact Or.inl (isDigit_of_mem_padded hc)

/-- The written form of a date is no whole number: it has hyphens, but does not start with one. -/
theorem signed?_toChars (d : Date) : Number.signed? d.toChars = none := by
  cases hyear : padded 4 d.year with
  | nil =>
      have hlength := length_padded d.widths.1
      rw [hyear] at hlength
      cases hlength
  | cons c cs =>
      have hc : c.isDigit = true := isDigit_of_mem_padded (hyear ▸ List.mem_cons_self)
      rw [toChars_eq, hyear, List.cons_append, Number.signed?_of_isDigit hc, Option.map_eq_none_iff,
        Option.eq_none_iff_forall_ne_some]
      intro n hn
      have hhyphen := (Number.digits?_eq_some_iff.mp hn).2.1 '-' (by simp)
      cases hhyphen

end Date

namespace TypedValue

variable {t : ValueType} {raw param : String} {v : TypedValue}

theorem parse_integer_eq_ok_iff :
    parse .integer raw param = .ok v ↔ ∃ n, Number.readInt64? (Text.trim raw) = some n ∧ v = .integer n := by
  rw [parse_eq_ok_iff]
  show readInteger raw = .ok v ↔ _
  unfold readInteger
  cases Number.readInt64? (Text.trim raw) <;> simp [eq_comm]

theorem parse_integer_toString (n : Int) :
    parse .integer (toString n) param = .ok v ↔ ∃ k, Number.int64? n = some k ∧ v = .integer k := by
  rw [parse_integer_eq_ok_iff, Number.trim_toString, Number.readInt64?, Number.signed?_toString, Option.bind_some]

theorem parse_date_toString (n : Int) : parse .date (toString n) param ≠ .ok v := by
  intro h
  obtain ⟨d, _, htext⟩ := Date.parse_eq_ok_iff.mp h
  have hread := Number.signed?_toString n
  rw [← Number.trim_toString n, ← htext, Date.toText, String.toList_ofList, Date.signed?_toChars] at hread
  cases hread

/-- A text with a point or a letter e is neither a whole number nor a date. -/
theorem parse_ne_ok_of_mem (hmem : '.' ∈ raw.toList ∨ 'e' ∈ raw.toList) (ht : t = .integer ∨ t = .date) :
    parse t raw param ≠ .ok v := by
  intro h
  have htrim : '.' ∈ (Text.trim raw).toList ∨ 'e' ∈ (Text.trim raw).toList := by
    rw [Text.trim, String.toList_ofList]
    exact hmem.imp (Text.mem_trimChars_of_mem · rfl) (Text.mem_trimChars_of_mem · rfl)
  rcases ht with rfl | rfl
  · obtain ⟨k, hk, _⟩ := parse_integer_eq_ok_iff.mp h
    obtain ⟨n, hn, _⟩ := Option.bind_eq_some_iff.mp hk
    have hchars := Number.isDigit_or_sign_of_signed? hn
    rcases htrim with hpoint | he
    · exact absurd (hchars _ hpoint) (by decide)
    · exact absurd (hchars _ he) (by decide)
  · obtain ⟨d, _, htext⟩ := Date.parse_eq_ok_iff.mp h
    rw [← htext, Date.toText, String.toList_ofList] at htrim
    rcases htrim with hpoint | he
    · exact absurd (Date.isDigit_or_hyphen_of_mem_toChars hpoint) (by decide)
    · exact absurd (Date.isDigit_or_hyphen_of_mem_toChars he) (by decide)

theorem ofJson_string (t : ValueType) (s param : String) : ofJson t (.string s) param = (parse t s param).map some := by
  cases t <;> rfl

theorem ofJson_integer_eq_ok_some_iff {n : Json.Number} :
    ofJson .integer (.number n) param = .ok (some v) ↔ ∃ k, integerOf? n = some k ∧ v = .integer k := by
  simp only [ofJson]
  cases integerOf? n <;> simp [eq_comm]

/-- A scalar is read as its text is, unless it is to be read as a double. -/
theorem ofJson_eq_ok_some_iff (ht : t ≠ .float) {stored : Json} {text : String}
    (htext : stored.scalarText? = some text) :
    ofJson t stored param = .ok (some v) ↔ parse t text param = .ok v := by
  cases stored with
  | null => cases htext
  | array items => cases htext
  | object members => cases htext
  | string s =>
      cases htext
      rw [ofJson_string, map_eq_ok_iff]
      simp
  | bool b =>
      cases htext
      rw [Json.toText_bool]
      have hmem : 'e' ∈ (Json.boolText b).toList := by cases b <;> decide
      cases t with
      | text => simp [ofJson, parse, read, Except.mapError]
      | integer => exact iff_of_false (by simp [ofJson]) (parse_ne_ok_of_mem (.inr hmem) (.inl rfl))
      | float => exact absurd rfl ht
      | date => exact iff_of_false (by simp [ofJson]) (parse_ne_ok_of_mem (.inr hmem) (.inr rfl))
  | number n =>
      cases htext
      rw [Json.toText_number]
      cases t with
      | text => simp [ofJson, parse, read, Except.mapError]
      | float => exact absurd rfl ht
      | integer =>
          cases n with
          | whole n =>
              rw [Json.Number.toText, parse_integer_toString]
              exact ofJson_integer_eq_ok_some_iff
          | double d =>
              exact iff_of_false (by simp [ofJson, integerOf?]) (parse_ne_ok_of_mem d.mem_toText (.inl rfl))
      | date =>
          refine iff_of_false (by simp [ofJson]) ?_
          cases n with
          | whole n => exact parse_date_toString n
          | double d => exact parse_ne_ok_of_mem d.mem_toText (.inr rfl)

end TypedValue

/-- A criterion for equality with the text of a value holds for the value. -/
theorem Criterion.exists_build_eq {catalog : Catalog} {key : String} {t : ValueType} {text param : String}
    {v : TypedValue} (htype : catalog.typeOf? key = some t) (hv : TypedValue.parse t text param = .ok v)
    (invert : Bool) (params : CriterionParams) :
    ∃ c, build catalog key .eq text invert params = .ok c ∧ c.operatorMatches v = true := by
  refine ⟨⟨key, .eq, text, v, invert⟩, ?_, ?_⟩
  · refine build_eq_ok_iff.mpr ⟨⟨rfl, rfl, rfl, rfl⟩, t, htype, ?_, TypedValue.parse_eq_ok_iff.mp hv⟩
    cases t <;> rfl
  · simp only [operatorMatches, TypedValue.compare?_self]
    rfl

/-- Stored scalars and texts are read alike as texts, whole numbers and dates: a scalar is read exactly when the
text that it prints is, and as the same value, for which a criterion for equality with this text then holds.
Null is no value, and arrays and objects are refused. -/
theorem scalars_read_as_their_texts (t : ValueType) (param : String) :
    (t ≠ .float → ∀ stored text, stored.scalarText? = some text → ∀ v,
      (TypedValue.ofJson t stored param = .ok (some v) ↔ TypedValue.parse t text param = .ok v) ∧
      (TypedValue.ofJson t stored param = .ok (some v) → ∀ catalog key, catalog.typeOf? key = some t →
        ∀ invert params, ∃ c, Criterion.build catalog key .eq text invert params = .ok c ∧
          c.operatorMatches v = true)) ∧
    TypedValue.ofJson t .null param = .ok none ∧
    (∀ items out, TypedValue.ofJson t (.array items) param ≠ .ok out) ∧
    ∀ members out, TypedValue.ofJson t (.object members) param ≠ .ok out := by
  refine ⟨fun ht stored text htext v => ?_, ?_, ?_, ?_⟩
  · have halike : TypedValue.ofJson t stored param = .ok (some v) ↔ TypedValue.parse t text param = .ok v :=
      TypedValue.ofJson_eq_ok_some_iff ht htext
    refine ⟨halike, fun hv catalog key htype invert params => ?_⟩
    exact Criterion.exists_build_eq htype (halike.mp hv) invert params
  · rw [TypedValue.ofJson]
  · intro items out
    cases t <;> simp [TypedValue.ofJson]
  · intro members out
    cases t <;> simp [TypedValue.ofJson]

/-- The greatest whole number is found by its digits, and the next one is none in either form. -/
theorem greatest_integer_found_by_its_digits : ValueType.integer ≠ .float ∧
    TypedValue.parse .integer "9223372036854775807" "search" = .ok (.integer Int64.maxValue) ∧
    (∀ v, TypedValue.parse .integer "9223372036854775808" "search" ≠ .ok v) ∧
    ∃ c, Criterion.build Samples.catalog "CpuClock" .eq "9223372036854775807" false .singular = .ok c ∧
      c.operatorMatches (.integer Int64.maxValue) = true := by
  have hne : ValueType.integer ≠ .float := by decide
  have halike := (scalars_read_as_their_texts .integer "search").1 hne
  obtain ⟨hread, hfound⟩ := halike (.ofNat 9223372036854775807) "9223372036854775807" rfl (.integer Int64.maxValue)
  have hgreatest : TypedValue.ofJson .integer (.ofNat 9223372036854775807) "search" =
      .ok (some (.integer Int64.maxValue)) := rfl
  refine ⟨hne, hread.mp hgreatest, fun v hv => ?_,
    hfound hgreatest Samples.catalog "CpuClock" (by decide) false .singular⟩
  have hnext := (halike (.ofNat 9223372036854775808) "9223372036854775808" rfl v).1.mpr hv
  cases hnext

end InventorySearch
