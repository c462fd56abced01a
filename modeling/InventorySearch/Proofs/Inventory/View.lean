import InventorySearch.Inventory.Record
import InventorySearch.Proofs.Value

/-! What the typed view of stored records holds. The values of a key are the readable scalars that the
record stores under it, read as the type that the catalog gives to the key. Whether unknown fields are
refused or left out only decides whether there is a view. -/

namespace InventorySearch

/-- The scalars of a stored value as values of a type, in their order and without nulls. -/
def valuesAs (key : String) (t : ValueType) (stored : Json) : List TypedValue :=
  (scalars stored).filterMap fun scalar => (TypedValue.ofJson t scalar key).toOption.join

/-- The values that a record stores under a key, as a catalog types them. -/
def InventoryRecord.valuesUnder (catalog : Catalog) (record : InventoryRecord) (key : String) :
    List TypedValue :=
  match record.fields.lookup key, catalog.typeOf? key with
  | some stored, some t => valuesAs key t stored
  | _, _ => []

theorem typeValues_eq_ok {key : String} {t : ValueType} {stored : Json} {values : List TypedValue}
    (h : typeValues key t stored = .ok values) : values = valuesAs key t stored := by
  obtain ⟨read, hread, rfl⟩ := map_eq_ok_iff.mp h
  rw [mapM_eq_ok_iff] at hread
  unfold valuesAs
  clear h
  generalize scalars stored = items at hread
  induction hread with
  | nil => rfl
  | cons hscalar _ ih =>
      rw [List.filterMap_cons, List.filterMap_cons, hscalar, ih]
      rfl

/-- A field is typed by the type of its key, and one that is left out has no type. -/
theorem typeField_eq_ok {catalog : Catalog} {unknown : UnknownField} {id : Int64}
    {field : String × Json} {out : Option (String × List TypedValue)}
    (h : typeField catalog unknown id field = .ok out) :
    (∃ t, catalog.typeOf? field.1 = some t ∧ out = some (field.1, valuesAs field.1 t field.2)) ∨
      catalog.typeOf? field.1 = none ∧ out = none := by
  unfold typeField at h
  split at h
  next t ht =>
    obtain ⟨values, hvalues, rfl⟩ := map_eq_ok_iff.mp h
    exact Or.inl ⟨t, ht, by rw [typeValues_eq_ok hvalues]⟩
  next hnone =>
    cases h
    exact Or.inr ⟨hnone, rfl⟩
  · cases h

/-- A field that is typed where unknown ones are refused is typed alike where they are left out. -/
theorem typeField_skip_of_reject {catalog : Catalog} {id : Int64} {field : String × Json}
    {out : Option (String × List TypedValue)} (h : typeField catalog .reject id field = .ok out) :
    typeField catalog .skip id field = .ok out := by
  unfold typeField at h ⊢
  cases ht : catalog.typeOf? field.1 with
  | none => rw [ht] at h; cases h
  | some t => rw [ht] at h; exact h

section Record

variable {catalog : Catalog} {unknown : UnknownField} {record : InventoryRecord} {typed : TypedRecord}

theorem id_of_typeRecord (h : typeRecord catalog unknown record = .ok typed) : typed.id = record.id := by
  obtain ⟨fields, _, rfl⟩ := map_eq_ok_iff.mp h
  rfl

theorem values_of_typeRecord (h : typeRecord catalog unknown record = .ok typed) (key : String) :
    typed.values key = record.valuesUnder catalog key := by
  obtain ⟨fields, hfields, rfl⟩ := map_eq_ok_iff.mp h
  rw [mapM_eq_ok_iff] at hfields
  unfold TypedRecord.values InventoryRecord.valuesUnder
  clear h
  generalize record.fields = items at hfields
  -- The first field with the key decides on both sides; a field that is left out has no type.
  induction hfields with
  | nil => rfl
  | @cons field out rest outs hfield _ ih =>
      obtain ⟨name, stored⟩ := field
      rcases typeField_eq_ok hfield with ⟨t, ht, rfl⟩ | ⟨hnone, rfl⟩
      · rw [List.filterMap_cons]
        by_cases heq : key = name
        · subst heq
          simp [ht]
        · have hne : (key == name) = false := by simpa using heq
          simpa [List.lookup_cons, hne] using ih
      · rw [List.filterMap_cons]
        by_cases heq : key = name
        · subst heq
          simpa [hnone] using ih
        · have hne : (key == name) = false := by simpa using heq
          simpa [List.lookup_cons, hne] using ih

theorem typeRecord_skip_of_reject (h : typeRecord catalog .reject record = .ok typed) :
    typeRecord catalog .skip record = .ok typed := by
  obtain ⟨fields, hfields, rfl⟩ := map_eq_ok_iff.mp h
  refine map_eq_ok_iff.mpr ⟨fields, ?_, rfl⟩
  rw [mapM_eq_ok_iff] at hfields ⊢
  exact hfields.imp fun _ _ => typeField_skip_of_reject

end Record

theorem valueType_of_mem_valuesUnder {catalog : Catalog} {record : InventoryRecord} {key : String}
    {v : TypedValue} (h : v ∈ record.valuesUnder catalog key) :
    catalog.typeOf? key = some v.valueType := by
  unfold InventoryRecord.valuesUnder at h
  split at h
  next stored t _ ht =>
    obtain ⟨scalar, _, hscalar⟩ := List.mem_filterMap.mp h
    have hread : TypedValue.ofJson t scalar key = .ok (some v) := by
      cases hread : TypedValue.ofJson t scalar key with
      | error e => rw [hread] at hscalar; cases hscalar
      | ok out => rw [hread] at hscalar; exact congrArg Except.ok hscalar
    rw [ht, TypedValue.valueType_of_ofJson hread]
  · cases h

/-- Only the keys of stored fields have values. -/
theorem not_mem_valuesUnder_iff {catalog : Catalog} {record : InventoryRecord} {v : TypedValue} :
    (∀ key, v ∉ record.valuesUnder catalog key) ↔
      ∀ field ∈ record.fields, v ∉ record.valuesUnder catalog field.1 := by
  constructor
  · exact fun h field _ => h field.1
  · intro h key hv
    cases hlookup : record.fields.lookup key with
    | none => simp [InventoryRecord.valuesUnder, hlookup] at hv
    | some stored =>
        obtain ⟨before, after, hfields, _⟩ := List.lookup_eq_some_iff.mp hlookup
        exact h (key, stored) (hfields ▸ List.mem_append_right before List.mem_cons_self) hv

theorem typeRecords_skip_of_reject {catalog : Catalog} {records : List InventoryRecord}
    {view : List TypedRecord} (h : typeRecords catalog .reject records = .ok view) :
    typeRecords catalog .skip records = .ok view := by
  unfold typeRecords at h ⊢
  rw [mapM_eq_ok_iff] at h ⊢
  exact h.imp fun _ _ => typeRecord_skip_of_reject

/-- A typed view holds one record for each raw one, with what that stores under the keys that are known. -/
theorem forall₂_of_typeRecords {catalog : Catalog} {unknown : UnknownField} {records : List InventoryRecord}
    {view : List TypedRecord} (h : typeRecords catalog unknown records = .ok view) :
    List.Forall₂ (fun record r => r.id = record.id ∧ r.values = record.valuesUnder catalog) records view :=
  (mapM_eq_ok_iff.mp h).imp fun _ _ hrecord => ⟨id_of_typeRecord hrecord, funext (values_of_typeRecord hrecord)⟩

theorem map_id_of_typeRecords {catalog : Catalog} {unknown : UnknownField} {records : List InventoryRecord}
    {view : List TypedRecord} (h : typeRecords catalog unknown records = .ok view) :
    view.map (·.id) = records.map (·.id) := by
  rw [← List.forall₂_eq_eq_eq, List.forall₂_map_left_iff, List.forall₂_map_right_iff]
  exact (forall₂_of_typeRecords h).flip.imp fun _ _ hrecord => hrecord.1

/-- The scalars of every stored field that a catalog knows are null or convert to the type of its key. -/
def ValuesConvert (catalog : Catalog) (records : List InventoryRecord) : Prop :=
  ∀ record ∈ records, ∀ field ∈ record.fields, ∀ t, catalog.typeOf? field.1 = some t →
    ∀ scalar ∈ scalars field.2, scalar = .null ∨ ∃ v, TypedValue.ofJson t scalar field.1 = .ok (some v)

theorem exists_typeField_skip_iff {catalog : Catalog} {id : Int64} {field : String × Json} :
    (∃ out, typeField catalog .skip id field = .ok out) ↔
      ∀ t, catalog.typeOf? field.1 = some t →
        ∀ scalar ∈ scalars field.2, scalar = .null ∨ ∃ v, TypedValue.ofJson t scalar field.1 = .ok (some v) := by
  unfold typeField
  cases ht : catalog.typeOf? field.1 with
  | none => simp
  | some t =>
      simp only [typeValues, exists_map_eq_ok_iff, exists_mapM_eq_ok_iff, TypedValue.exists_ofJson_iff,
        Option.some.injEq, forall_eq']

/-- Records can be typed, unknown fields left out, exactly when what is stored under known keys converts. -/
theorem exists_typeRecords_skip_iff {catalog : Catalog} {records : List InventoryRecord} :
    (∃ view, typeRecords catalog .skip records = .ok view) ↔ ValuesConvert catalog records := by
  simp only [typeRecords, typeRecord, exists_mapM_eq_ok_iff, exists_map_eq_ok_iff, exists_typeField_skip_iff,
    ValuesConvert]

/-- In a typed view every value of a key has the type that the catalog gives to the key. -/
theorem valueType_of_mem_view {catalog : Catalog} {unknown : UnknownField}
    {records : List InventoryRecord} {view : List TypedRecord}
    (h : typeRecords catalog unknown records = .ok view) {r : TypedRecord} (hr : r ∈ view)
    {key : String} {v : TypedValue} (hv : v ∈ r.values key) :
    catalog.typeOf? key = some v.valueType := by
  obtain ⟨record, _, hrecord⟩ := exists_of_mem_mapM h hr
  rw [values_of_typeRecord hrecord] at hv
  exact valueType_of_mem_valuesUnder hv

/-! ### Inventories -/

namespace Inventory

/-- The inventories that arise: records are loaded under a catalog, and typed anew under others. -/
inductive Arises : Inventory → Prop
  | loaded {catalog : Catalog} {records : List InventoryRecord} {i : Inventory}
      (hload : load catalog records = .ok i) : Arises i
  | retyped {catalog : Catalog} {i i' : Inventory} (hbefore : Arises i)
      (hretype : i.retype catalog = .ok i') : Arises i'

/-- The view of an inventory is always that of its records under some catalog. -/
theorem Arises.exists_typeRecords {i : Inventory} (h : i.Arises) :
    ∃ catalog unknown, typeRecords catalog unknown i.records = .ok i.view := by
  cases h with
  | @loaded catalog _ _ hload =>
      obtain ⟨view, hview, rfl⟩ := map_eq_ok_iff.mp hload
      exact ⟨catalog, .reject, hview⟩
  | @retyped catalog _ _ _ hretype =>
      obtain ⟨view, hview, rfl⟩ := map_eq_ok_iff.mp hretype
      exact ⟨catalog, .skip, hview⟩

end Inventory

end InventorySearch
