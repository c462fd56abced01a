import InventorySearch.Proofs.Request.Gap

/-! The singular and the indexed form of a criterion are read alike. The number only stands behind the names of the
parameters, so that the same texts give the same criterion under any number, and the same error but for the number
in the parameter that it names. -/

namespace InventorySearch

/-! ### Renamed parameters -/

/-- The same error in a parameter of another name. -/
def SearchError.mapParam (rename : String → String) : SearchError → SearchError
  | unknownFilter param key => unknownFilter (rename param) key
  | invalidValue param value reason => invalidValue (rename param) value reason
  | unknownOperator param value => unknownOperator (rename param) value
  | operatorNotAllowed param key operator valueType => operatorNotAllowed (rename param) key operator valueType
  | unknownColumn param column => unknownColumn (rename param) column
  | invalidEncoding reason => invalidEncoding reason

theorem SearchError.param?_mapParam (rename : String → String) (e : SearchError) :
    (e.mapParam rename).param? = e.param?.map rename := by
  cases e <;> rfl

/-- The parameter names of a criterion, each of them renamed. -/
def CriterionParams.map (rename : String → String) (names : CriterionParams) : CriterionParams :=
  ⟨rename names.filter, rename names.search, rename names.operator, rename names.invert⟩

theorem mapError_bind {ε ε' α β : Type} (result : Except ε α) (next : α → Except ε β) (f : ε → ε') :
    (result >>= next).mapError f = result.mapError f >>= fun a => (next a).mapError f := by
  cases result <;> rfl

section Rename

variable (rename : String → String)

theorem readOperator_rename (raw : Option String) (param : String) :
    readOperator raw (rename param) = (readOperator raw param).mapError (·.mapParam rename) := by
  cases raw with
  | none => rfl
  | some raw =>
      rw [readOperator, readOperator]
      cases pick (α := Operator) raw <;> rfl

theorem readFlag_rename (raw : Option String) (param : String) :
    readFlag raw (rename param) = (readFlag raw param).mapError (·.mapParam rename) := by
  cases raw with
  | none => rfl
  | some raw =>
      simp only [readFlag]
      split_ifs <;> rfl

theorem parse_rename (t : ValueType) (raw param : String) :
    TypedValue.parse t raw (rename param) = (TypedValue.parse t raw param).mapError (·.mapParam rename) := by
  rw [TypedValue.parse, TypedValue.parse]
  cases TypedValue.read t raw <;> rfl

theorem build_rename (catalog : Catalog) (key : String) (operator : Operator) (raw : String) (invert : Bool)
    (names : CriterionParams) :
    Criterion.build catalog key operator raw invert (names.map rename) =
      (Criterion.build catalog key operator raw invert names).mapError (·.mapParam rename) := by
  unfold Criterion.build
  cases catalog.typeOf? key with
  | none => rfl
  | some t =>
      simp only [CriterionParams.map, parse_rename]
      cases operator.allowedFor t with
      | false => rfl
      | true => cases TypedValue.parse t raw names.search <;> rfl

/-- A criterion is read in the same way from parameters of other names. -/
theorem Params.criterion_rename {p q : Params} {catalog : Catalog} {names : CriterionParams}
    (hsearch : p.first? (rename names.search) = q.first? names.search)
    (hoperator : p.first? (rename names.operator) = q.first? names.operator)
    (hinvert : p.first? (rename names.invert) = q.first? names.invert) (filter : String) :
    p.criterion catalog (names.map rename) filter =
      (q.criterion catalog names filter).mapError (·.mapParam rename) := by
  rw [criterion, criterion, mapError_bind]
  simp only [CriterionParams.map, nonEmpty?, hsearch, hoperator, hinvert, readOperator_rename, readFlag_rename]
  apply bind_congr
  intro operator
  rw [mapError_bind]
  apply bind_congr
  intro invert
  exact build_rename rename catalog _ operator _ invert names

end Rename

/-! ### Texts in both forms -/

/-- What is submitted for a criterion. -/
structure CriterionTexts where
  filter : String
  search : Option String
  operator : Option String
  invert : Option String

namespace Params

/-- The first values that a submission has for given names are given texts. -/
structure Holds (p : Params) (names : CriterionParams) (texts : CriterionTexts) : Prop where
  filter : p.first? names.filter = some texts.filter
  search : p.first? names.search = texts.search
  operator : p.first? names.operator = texts.operator
  invert : p.first? names.invert = texts.invert

variable {p q : Params} {catalog : Catalog} {texts : CriterionTexts} {k n : Nat}

theorem Holds.read?_eq_none {suffix : String} (h : p.Holds (.suffixed suffix) texts) (hempty : texts.filter = "")
    (catalog : Catalog) : p.read? catalog suffix = none := by
  have hgiven : p.first? ("filter" ++ suffix) = some "" := hempty ▸ h.filter
  apply read?_of_missing
  rw [nonEmpty?, hgiven]
  rfl

theorem Holds.read?_eq_some {suffix : String} (h : p.Holds (.suffixed suffix) texts) (hfilter : texts.filter ≠ "")
    (catalog : Catalog) : p.read? catalog suffix = some (p.criterion catalog (.suffixed suffix) texts.filter) :=
  read?_of_filter (nonEmpty?_of_first? h.filter hfilter) catalog

/-- Under a number a criterion is read as in the singular form, but for the number in what an error names. -/
theorem numbered?_of_holds (hp : p.Holds (.indexed k) texts) (hq : q.Holds .singular texts)
    (hfilter : texts.filter ≠ "") (catalog : Catalog) :
    p.numbered? catalog k =
      some ((q.criterion catalog .singular texts.filter).mapError (·.mapParam (· ++ toString k))) := by
  have hnames : CriterionParams.suffixed (toString k) = CriterionParams.singular.map (· ++ toString k) := rfl
  rw [numbered?, hp.read?_eq_some hfilter, hnames]
  exact congrArg some (criterion_rename _ (hp.search.trans hq.search.symm) (hp.operator.trans hq.operator.symm)
    (hp.invert.trans hq.invert.symm) _)

theorem exists_of_earlier {earlier : List Criterion}
    (hearlier : (List.range' 1 (k - 1)).map (p.numbered? catalog) = earlier.map (some ∘ .ok)) {j : Nat} (hj : 1 ≤ j)
    (hlt : j < k) : ∃ c, p.numbered? catalog j = some (.ok c) := by
  have hmem : p.numbered? catalog j ∈ (List.range' 1 (k - 1)).map (p.numbered? catalog) :=
    List.mem_map_of_mem (List.mem_range'_1.mpr (by omega))
  rw [hearlier] at hmem
  obtain ⟨c, _, hc⟩ := List.mem_map.mp hmem
  exact ⟨c, hc.symm⟩

/-- The gap is not in front of a number when there is a criterion at each number before it. -/
theorem IsGap.le_of_earlier (hgap : p.IsGap n) {earlier : List Criterion}
    (hearlier : (List.range' 1 (k - 1)).map (p.numbered? catalog) = earlier.map (some ∘ .ok)) : k ≤ n := by
  by_contra hlt
  obtain ⟨c, hc⟩ := exists_of_earlier hearlier hgap.pos (by omega)
  rw [hgap.numbered?_eq_none] at hc
  cases hc

/-- The numbers in front of a gap, around one of them. -/
theorem range'_around (hk : 1 ≤ k) (hlt : k < n) :
    List.range' 1 (n - 1) = List.range' 1 (k - 1) ++ k :: List.range' (k + 1) (n - 1 - k) := by
  have hfirst : 1 + 1 * (k - 1) = k := by omega
  have hcount : k - 1 + (n - 1 - k + 1) = n - 1 := by omega
  calc
    List.range' 1 (n - 1) = List.range' 1 (k - 1 + (n - 1 - k + 1)) := by rw [hcount]
    _ = List.range' 1 (k - 1) ++ k :: List.range' (k + 1) (n - 1 - k) := by
      rw [← List.range'_append, hfirst, List.range'_succ]

/-- One criterion is read alike in the singular form and under a number, whatever its texts are, as long as there
is no singular filter besides and there are criteria at all numbers before. It is the same criterion, in its place
behind the earlier ones, or the same error but for the number behind the parameter that it names; without a
filter there is no criterion in either form. -/
theorem shapes_agree (catalog : Catalog) {k : Nat} (hk : 1 ≤ k) {texts : CriterionTexts} {p q : Params}
    (hp : p.Holds (.indexed k) texts) (hq : q.Holds .singular texts) (hsingular : p.nonEmpty? "filter" = none)
    {earlier : List Criterion}
    (hearlier : (List.range' 1 (k - 1)).map (p.numbered? catalog) = earlier.map (some ∘ .ok)) :
    (texts.filter ≠ "" → ∃ result : Except SearchError Criterion,
      q.criteria catalog = result.map ([·]) ∧
        p.numbered? catalog k = some (result.mapError (·.mapParam (· ++ toString k))) ∧
        (∀ e, result = .error e → p.criteria catalog = .error (e.mapParam (· ++ toString k)) ∧
          (e.mapParam (· ++ toString k)).param? = e.param?.map (· ++ toString k)) ∧
        ∀ c, result = .ok c →
          (p.nonEmpty? ("filter" ++ toString (k + 1)) = none → p.criteria catalog = .ok (earlier ++ [c])) ∧
            ∀ criteria, p.criteria catalog = .ok criteria → ∃ later, criteria = earlier ++ c :: later) ∧
      (texts.filter = "" → p.criteria catalog = .ok earlier ∧
        (q.nonEmpty? "filter1" = none → q.criteria catalog = .ok [])) := by
  obtain ⟨n, hgap⟩ := p.exists_isGap
  have hle : k ≤ n := hgap.le_of_earlier hearlier
  have hnumbers : p.read? catalog "" = none := read?_of_missing hsingular catalog
  constructor
  · intro hfilter
    have hresult := numbered?_of_holds hp hq hfilter catalog
    have hlt : k < n := by
      refine Nat.lt_of_le_of_ne hle fun heq => ?_
      rw [heq, hgap.numbered?_eq_none] at hresult
      cases hresult
    refine ⟨q.criterion catalog .singular texts.filter, ?_, hresult, ?_, ?_⟩
    · exact criteria_of_singular (hq.read?_eq_some hfilter catalog)
    · intro e he
      rw [he] at hresult
      refine ⟨(hgap.criteria_eq_error_iff hnumbers).mpr ⟨k, hk, hlt, hresult, fun j hj hjk => ?_⟩, e.param?_mapParam _⟩
      exact exists_of_earlier hearlier hj hjk
    · intro c hc
      rw [hc] at hresult
      have hread : (List.range' 1 (n - 1)).map (p.numbered? catalog) = earlier.map (some ∘ .ok) ++
          some (.ok c) :: (List.range' (k + 1) (n - 1 - k)).map (p.numbered? catalog) := by
        rw [range'_around hk hlt, List.map_append, List.map_cons, hearlier, hresult]
        rfl
      constructor
      · intro hnext
        have hle' : n ≤ k + 1 := hgap.2 ⟨Nat.le_add_left 1 k, hnext⟩
        have hnone : n - 1 - k = 0 := by omega
        rw [hgap.criteria_eq_ok_iff hnumbers, hread, hnone, List.map_append]
        rfl
      · intro criteria hcriteria
        rw [hgap.criteria_eq_ok_iff hnumbers, hread] at hcriteria
        obtain ⟨before, after, rfl, hbefore, hafter⟩ := List.map_eq_append_iff.mp hcriteria.symm
        obtain ⟨c', later, rfl, hc', _⟩ := List.map_eq_cons_iff.mp hafter
        have hinj : Function.Injective (some ∘ .ok : Criterion → Option (Except SearchError Criterion)) := by
          intro a b h
          cases h
          rfl
        rw [hinj.list_map hbefore, hinj hc']
        exact ⟨later, rfl⟩
  · intro hempty
    have hmissing : p.numbered? catalog k = none := hp.read?_eq_none hempty catalog
    have hn : n = k := Nat.le_antisymm (hgap.2 ⟨hk, numbered?_eq_none_iff.mp hmissing⟩) hle
    subst hn
    refine ⟨(hgap.criteria_eq_ok_iff hnumbers).mpr hearlier, fun hfirst => ?_⟩
    have hgap' : q.IsGap 1 := ⟨⟨Nat.le_refl 1, hfirst⟩, fun j hj => hj.1⟩
    exact (hgap'.criteria_eq_ok_iff (hq.read?_eq_none hempty catalog)).mpr rfl

/-- A number is asked for, and the text is none. -/
def fastClock : CriterionTexts := ⟨"CpuClock", some "fast", some " GE ", some "on"⟩

theorem fastClock_read_alike :
    let p : Params := ⟨[("filter1", "Name"), ("search1", "a"), ("invert2", "on"), ("filter2", "CpuClock"),
      ("operator2", " GE "), ("search2", "fast"), ("filter3", "Nothing")]⟩
    let q : Params := ⟨[("filter", "CpuClock"), ("search", "fast"), ("operator", " GE "), ("invert", "on")]⟩
    (p.Holds (.indexed 2) fastClock ∧ q.Holds .singular fastClock ∧
        p.numbered? .builtin 1 = some (.ok ⟨"Name", .eq, "a", .text "a", false⟩)) ∧
      q.criteria .builtin = .error (.invalidValue "search" "fast" "expected an integer") ∧
      p.criteria .builtin = .error (.invalidValue "search2" "fast" "expected an integer") := by
  intro p q
  have hp : p.Holds (.indexed 2) fastClock := ⟨by decide, by decide, by decide, by decide⟩
  have hq : q.Holds .singular fastClock := ⟨by decide, by decide, by decide, by decide⟩
  have hfirst : p.numbered? .builtin 1 = some (.ok ⟨"Name", .eq, "a", .text "a", false⟩) := by decide +kernel
  have hcriteria : q.criteria .builtin = .error (.invalidValue "search" "fast" "expected an integer") := by
    decide +kernel
  have hearlier : (List.range' 1 (2 - 1)).map (p.numbered? .builtin) =
      [(⟨"Name", .eq, "a", .text "a", false⟩ : Criterion)].map (some ∘ .ok) := congrArg (fun read => [read]) hfirst
  obtain ⟨result, hresult, _, herror, _⟩ :=
    (shapes_agree .builtin (by decide) hp hq (by decide) hearlier).1 (by decide)
  rw [hcriteria] at hresult
  cases result with
  | ok c => cases hresult
  | error e =>
      cases hresult
      exact ⟨⟨hp, hq, hfirst⟩, hcriteria, (herror _ rfl).1⟩

end Params

end InventorySearch
