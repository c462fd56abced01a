import InventorySearch.Proofs.Json
import InventorySearch.Proofs.Request.Gap
import InventorySearch.Service.Computers

/-! A filter may be named by its field id instead of its key. No field id is a key of an extended catalog, whatever
the names of its extensions, so the field id of a key that is known always stands for that key, and a submission
that names a filter in the one way or in the other has the same criteria. -/

namespace InventorySearch

/-! ### Field ids are no keys -/

theorem decode_builtinLabels : ∀ entry ∈ Catalog.builtinLabels, (FieldId.decode entry.1).toOption = none := by
  decide +kernel

/-- The keys of extensions have a full stop, which no field id has, and the built-in keys cannot be decoded. -/
theorem not_contains_encode (e : Extensions) (key : String) :
    ¬(Catalog.extended e).contains (FieldId.encode key) = true := by
  have hstop : ∀ rest beginning : String, '.' ∈ beginning.toList → beginning ++ rest ≠ FieldId.encode key := by
    intro rest beginning hmem heq
    have hid : '.' ∈ (FieldId.encode key).toList := by
      rw [← heq, String.toList_append]
      exact List.mem_append_left _ hmem
    exact absurd (FieldId.isSymbol_of_mem_encode hid) (by decide)
  intro hcontains
  rcases (Catalog.contains_extended e _).mp hcontains with ⟨name, _, heq⟩ | ⟨field, _, heq⟩ | ⟨entry, hentry, heq⟩
  · exact hstop name "Registry." (by decide) heq
  · exact hstop field.name "UserDefinedInfo." (by decide) heq
  · have hnone := decode_builtinLabels entry hentry
    rw [heq, FieldId.decode_encode] at hnone
    cases hnone

/-- The field id of a key that is known stands for the key. -/
theorem resolveKey_encode {e : Extensions} {key : String} (h : (Catalog.extended e).contains key = true) :
    resolveKey (Catalog.extended e) (FieldId.encode key) = key := by
  rw [resolveKey, if_neg (not_contains_encode e key), FieldId.decode_encode]
  exact if_pos h

theorem resolveKey_resolveKey (catalog : Catalog) (filter : String) :
    resolveKey catalog (resolveKey catalog filter) = resolveKey catalog filter := by
  rcases resolveKey_eq_self_or_contains catalog filter with hself | hknown
  · rw [hself, hself]
  · exact resolveKey_of_contains hknown

namespace Params

variable {p q : Params} {catalog : Catalog}

/-! ### Filters named in two ways -/

theorem criterion_resolveKey (names : CriterionParams) (filter : String) :
    p.criterion catalog names (resolveKey catalog filter) = p.criterion catalog names filter := by
  rw [criterion, criterion, resolveKey_resolveKey]

/-- What is read depends on the key that a filter stands for, and not on how it is named. -/
theorem read?_eq_of_key (suffix : String) :
    p.read? catalog suffix = ((p.nonEmpty? ("filter" ++ suffix)).map (resolveKey catalog)).map
      (p.criterion catalog (.suffixed suffix)) := by
  have hread : p.criterion catalog (.suffixed suffix) ∘ resolveKey catalog = p.criterion catalog (.suffixed suffix) :=
    funext (criterion_resolveKey (.suffixed suffix))
  rw [Option.map_map, hread]
  rfl

/-- Two submissions hold the same parameters, but for filters that are named in two ways. -/
structure SameFilters (catalog : Catalog) (p q : Params) : Prop where
  others : ∀ name, (∀ suffix, name ≠ "filter" ++ suffix) → p.first? name = q.first? name
  filters : ∀ suffix, (p.nonEmpty? ("filter" ++ suffix)).map (resolveKey catalog) =
    (q.nonEmpty? ("filter" ++ suffix)).map (resolveKey catalog)

namespace SameFilters

variable (h : SameFilters catalog p q)
include h

theorem first?_eq {word : String} (hword : word.toList.head? ≠ some 'f') (hne : word ≠ "") (suffix : String) :
    p.first? (word ++ suffix) = q.first? (word ++ suffix) := by
  apply h.others
  intro other heq
  have hhead := congrArg (fun name : String => name.toList.head?) heq
  simp only [String.toList_append] at hhead
  rw [List.head?_append_of_ne_nil _ (by simpa using hne)] at hhead
  exact hword hhead

theorem read?_eq (suffix : String) : p.read? catalog suffix = q.read? catalog suffix := by
  have hwords : ∀ word ∈ ["search", "operator", "invert"], word.toList.head? ≠ some 'f' ∧ word ≠ "" := by decide
  have hcriterion : p.criterion catalog (.suffixed suffix) = q.criterion catalog (.suffixed suffix) :=
    funext (criterion_congr (fun word hword => h.first?_eq (hwords word hword).1 (hwords word hword).2 suffix) catalog)
  rw [read?_eq_of_key, read?_eq_of_key, h.filters, hcriterion]

theorem criteria_eq : p.criteria catalog = q.criteria catalog := by
  obtain ⟨n, hgap⟩ := p.exists_isGap
  exact hgap.criteria_congr (h.read?_eq "") fun k _ _ => h.read?_eq (toString k)

end SameFilters

/-- One value of a filter gives way to another one that stands for the same key. -/
theorem sameFilters_append_cons (before after : List (String × String)) (suffix : String) {value value' : String}
    (hvalue : value ≠ "") (hvalue' : value' ≠ "") (hkey : resolveKey catalog value = resolveKey catalog value') :
    SameFilters catalog ⟨before ++ ("filter" ++ suffix, value) :: after⟩
      ⟨before ++ ("filter" ++ suffix, value') :: after⟩ := by
  constructor
  · intro name hname
    rw [first?_append_cons, first?_append_cons, if_neg (hname suffix), if_neg (hname suffix)]
  · intro other
    rw [nonEmpty?, nonEmpty?, first?_append_cons, first?_append_cons]
    cases before.lookup ("filter" ++ other) with
    | some first => rfl
    | none =>
        rw [Option.none_or, Option.none_or]
        split_ifs
        · rw [Option.filter_some_pos (by simpa using hvalue), Option.filter_some_pos (by simpa using hvalue'),
            Option.map_some, Option.map_some, hkey]
        · rfl

/-! ### The keys of criteria -/

theorem key_of_singular {filter : String} (hfilter : p.nonEmpty? "filter" = some filter)
    {criteria : List Criterion} (h : p.criteria catalog = .ok criteria) :
    ∀ c ∈ criteria, c.key = resolveKey catalog filter := by
  have hread : p.read? catalog "" = some (p.criterion catalog .singular filter) := read?_of_filter hfilter catalog
  rw [criteria_of_singular hread] at h
  obtain ⟨c, hc, rfl⟩ := map_eq_ok_iff.mp h
  intro c' hc'
  cases List.mem_singleton.mp hc'
  exact (criterion_eq_ok hc).2

theorem key_of_indexed (hsingular : p.nonEmpty? "filter" = none) {criteria : List Criterion}
    (h : p.criteria catalog = .ok criteria) {i : Nat} {c : Criterion} (hc : criteria[i]? = some c) :
    ∃ filter, p.nonEmpty? ("filter" ++ toString (i + 1)) = some filter ∧ c.key = resolveKey catalog filter := by
  obtain ⟨n, hgap⟩ := p.exists_isGap
  have hread := hgap.numbered?_of_getElem? (read?_of_missing hsingular catalog) h hc
  obtain ⟨filter, hfilter, hcriterion⟩ := Option.map_eq_some_iff.mp hread
  exact ⟨filter, hfilter, (criterion_eq_ok hcriterion).2⟩

end Params

/-! ### Listed filters -/

/-- A catalog lists a filter with a key and a field id. -/
def Catalog.Lists (catalog : Catalog) (key id : String) : Prop :=
  ∃ items item, catalog.formFields = .array items ∧ item ∈ items ∧ item.get? "key" = some (.string key) ∧
    item.get? "field_id" = some (.string id)

theorem Catalog.lists_iff {catalog : Catalog} {key id : String} :
    catalog.Lists key id ↔ catalog.contains key = true ∧ id = FieldId.encode key := by
  have hkey : ∀ d : FilterDefinition, d.toFormJson.get? "key" = some (.string d.key) :=
    fun d => Json.get?_ofMembers _ _
  have hid : ∀ d : FilterDefinition, d.toFormJson.get? "field_id" = some (.string (FieldId.encode d.key)) :=
    fun d => Json.get?_ofMembers _ _
  constructor
  · rintro ⟨items, item, hitems, hitem, hitemKey, hitemId⟩
    cases hitems
    obtain ⟨d, hd, rfl⟩ := List.mem_map.mp hitem
    rw [hkey] at hitemKey
    rw [hid] at hitemId
    cases hitemKey
    cases hitemId
    exact ⟨exists_definition_iff.mp ⟨d, hd, rfl⟩, rfl⟩
  · rintro ⟨hknown, rfl⟩
    obtain ⟨d, hd, rfl⟩ := exists_definition_iff.mpr hknown
    exact ⟨_, d.toFormJson, rfl, List.mem_map_of_mem hd, hkey d, hid d⟩

/-- Every filter of a catalog is listed, in the catalog and in the search form, with a field id of its own that
is written in letters, digits and two signs. Wherever a filter is named, the field id may stand for the key: the
criteria, or what is wrong with them, stay the same, and they have the key. -/
theorem listed_field_id_names_filter (e : Extensions) :
    let catalog := Catalog.extended e
    catalog.toJson.get? "filters" = some catalog.formFields ∧
      (∀ params result, (Service.formToJson catalog params result).get? "filters" = some catalog.formFields) ∧
      (∀ key, catalog.contains key = true ↔ ∃ id, catalog.Lists key id) ∧
      (∀ key other id, catalog.Lists key id → catalog.Lists other id → key = other) ∧
      ∀ key id, catalog.Lists key id →
        (∀ c ∈ id.toList, Text.Base64.IsSymbol c) ∧
        ∀ (before after : List (String × String)) (suffix : String),
          let byKey : Params := ⟨before ++ ("filter" ++ suffix, key) :: after⟩
          let byId : Params := ⟨before ++ ("filter" ++ suffix, id) :: after⟩
          byId.criteria catalog = byKey.criteria catalog ∧
            ∀ criteria, byId.criteria catalog = .ok criteria →
              (byId.first? "filter" = some id → ∀ c ∈ criteria, c.key = key) ∧
              (byId.nonEmpty? "filter" = none → ∀ n c, byId.first? ("filter" ++ toString (n + 1)) = some id →
                criteria[n]? = some c → c.key = key) := by
  intro catalog
  refine ⟨Json.get?_ofMembers _ _, ?_, ?_, ?_, ?_⟩
  · intro params result
    cases result <;> exact Json.get?_ofMembers _ _
  · intro key
    simp only [Catalog.lists_iff, exists_and_left, exists_eq, and_true]
  · intro key other id hkey hother
    obtain ⟨_, rfl⟩ := Catalog.lists_iff.mp hkey
    exact FieldId.encode_injective (Catalog.lists_iff.mp hother).2
  · intro key id hlists
    obtain ⟨hknown, rfl⟩ := Catalog.lists_iff.mp hlists
    have hid : FieldId.encode key ≠ "" := FieldId.encode_ne_empty (ne_empty_of_contains_extended hknown)
    have hresolve : resolveKey catalog (FieldId.encode key) = key := resolveKey_encode hknown
    refine ⟨fun c hc => FieldId.isSymbol_of_mem_encode hc, ?_⟩
    intro before after suffix byKey byId
    refine ⟨?_, ?_⟩
    · apply Params.SameFilters.criteria_eq
      apply Params.sameFilters_append_cons before after suffix hid (ne_empty_of_contains_extended hknown)
      rw [hresolve, resolveKey_of_contains hknown]
    · intro criteria hcriteria
      constructor
      · intro hfirst c hc
        rw [Params.key_of_singular (Params.nonEmpty?_of_first? hfirst hid) hcriteria c hc, hresolve]
      · intro hsingular n c hfirst hc
        obtain ⟨filter, hfilter, hkey⟩ := Params.key_of_indexed hsingular hcriteria hc
        rw [Params.nonEmpty?_of_first? hfirst hid] at hfilter
        cases hfilter
        rw [hkey, hresolve]

/-- A declared field with a name that is not ASCII. -/
def officeExtensions : Extensions := ⟨[⟨"Büro", .text⟩], []⟩

theorem office_named_by_field_id :
    let catalog := Catalog.extended officeExtensions
    let byId : Params := ⟨[("filter1", "VXNlckRlZmluZWRJbmZvLkLDvHJv"), ("search1", "3")]⟩
    catalog.Lists "UserDefinedInfo.Büro" "VXNlckRlZmluZWRJbmZvLkLDvHJv" ∧
      byId.criteria catalog = Params.criteria ⟨[("filter1", "UserDefinedInfo.Büro"), ("search1", "3")]⟩ catalog ∧
      ∃ c, byId.criteria catalog = .ok [c] ∧ c.key = "UserDefinedInfo.Büro" := by
  intro catalog byId
  have hlists : catalog.Lists "UserDefinedInfo.Büro" "VXNlckRlZmluZWRJbmZvLkLDvHJv" :=
    Catalog.lists_iff.mpr ⟨by decide +kernel, by decide +kernel⟩
  obtain ⟨_, _, _, _, hfilters⟩ := listed_field_id_names_filter officeExtensions
  obtain ⟨hsame, hkeys⟩ := (hfilters _ _ hlists).2 [] [("search1", "3")] "1"
  have hlength : (byId.criteria catalog).toOption.map List.length = some 1 := by decide +kernel
  obtain ⟨criteria, hcriteria, hone⟩ := Option.map_eq_some_iff.mp hlength
  obtain ⟨c, rfl⟩ := List.length_eq_one_iff.mp hone
  have hread : byId.criteria catalog = .ok [c] := by
    cases hresult : byId.criteria catalog with
    | error e =>
        rw [hresult] at hcriteria
        cases hcriteria
    | ok found =>
        rw [hresult] at hcriteria
        cases hcriteria
        rfl
  exact ⟨hlists, hsame, c, hread, (hkeys [c] hread).2 rfl 0 c rfl rfl⟩

end InventorySearch
