import InventorySearch.Catalog.Extensions
import InventorySearch.Proofs.Text.Pieces

/-! The keys that a catalog knows: those with a type, which are those of its filters. The keys of extensions
have a fixed beginning, so whether such a key can be an item of a comma-separated list depends on the name
behind it. -/

namespace InventorySearch

namespace Catalog

variable {catalog : Catalog}

theorem contains_eq_isSome (catalog : Catalog) (key : String) :
    catalog.contains key = (catalog.typeOf? key).isSome := by
  rw [contains, typeOf?, Option.isSome_map]

theorem contains_of_typeOf? {key : String} {t : ValueType} (h : catalog.typeOf? key = some t) :
    catalog.contains key = true := by
  rw [contains_eq_isSome, h]
  rfl

/-- What is true of the keys of all filters is true of every key that is known. -/
theorem forall_contains_iff {P : String → Prop} :
    (∀ key, catalog.contains key = true → P key) ↔ ∀ d ∈ catalog.definitions, P d.key := by
  constructor
  · intro h d hd
    obtain ⟨⟨key, entry⟩, hentry, rfl⟩ := List.mem_map.mp hd
    have hlookup := Std.TreeMap.mem_toList_iff_getElem?_eq_some.mp hentry
    exact h key (by simp [contains, lookup?, hlookup])
  · intro h key hkey
    simp only [contains, lookup?, Option.isSome_map] at hkey
    obtain ⟨entry, hentry⟩ := Option.isSome_iff_exists.mp hkey
    exact h ⟨key, entry.label, entry.valueType⟩
      (List.mem_map.mpr ⟨(key, entry), Std.TreeMap.mem_toList_iff_getElem?_eq_some.mpr hentry, rfl⟩)

theorem exists_definition_iff {key : String} :
    (∃ d ∈ catalog.definitions, d.key = key) ↔ catalog.contains key = true := by
  constructor
  · rintro ⟨d, hd, rfl⟩
    exact forall_contains_iff (P := fun key => catalog.contains key = true).mp (fun _ hkey => hkey) d hd
  · exact forall_contains_iff (P := fun key => ∃ d ∈ catalog.definitions, d.key = key).mpr
      (fun d hd => ⟨d, hd, rfl⟩) key

/-! ### Registered keys -/

theorem contains_register (catalog : Catalog) (key label : String) (t : ValueType) (other : String) :
    (catalog.register key label t).contains other = true ↔ key = other ∨ catalog.contains other = true := by
  simp only [contains, lookup?, register, Std.TreeMap.getElem?_insert, Std.LawfulEqCmp.compare_eq_iff_eq]
  by_cases heq : key = other <;> simp [heq]

/-- What is registered item by item is known by the keys of the items. -/
theorem contains_foldl {α : Type} {add : Catalog → α → Catalog} {keyOf : α → String}
    (hadd : ∀ catalog a key, (add catalog a).contains key = true ↔ keyOf a = key ∨ catalog.contains key = true)
    (items : List α) (catalog : Catalog) (key : String) :
    (items.foldl add catalog).contains key = true ↔
      (∃ a ∈ items, keyOf a = key) ∨ catalog.contains key = true := by
  induction items generalizing catalog with
  | nil => simp
  | cons a items ih => rw [List.foldl_cons, ih, hadd, List.exists_mem_cons_iff, or_left_comm, or_assoc]

theorem contains_builtin (key : String) :
    builtin.contains key = true ↔ ∃ entry ∈ builtinLabels, entry.1 = key := by
  have hempty : empty.contains key = false := by simp [contains, lookup?, empty]
  have hadd : ∀ (catalog : Catalog) (entry : String × String) (key : String),
      (catalog.register entry.1 entry.2 (builtinType entry.1)).contains key = true ↔
        entry.1 = key ∨ catalog.contains key = true :=
    fun catalog entry => contains_register catalog entry.1 entry.2 _
  have hfold := contains_foldl hadd builtinLabels empty key
  rw [hempty, Bool.false_eq_true, or_false] at hfold
  exact hfold

theorem contains_extended (e : Extensions) (key : String) :
    (extended e).contains key = true ↔
      (∃ name ∈ e.registryValues, registryKey name = key) ∨
        (∃ field ∈ e.declaredFields, declaredKey field.name = key) ∨ ∃ entry ∈ builtinLabels, entry.1 = key := by
  have hdeclared : ∀ (catalog : Catalog) (field : DeclaredField) (key : String),
      (catalog.registerDeclared field).contains key = true ↔
        declaredKey field.name = key ∨ catalog.contains key = true :=
    fun catalog field => contains_register catalog _ _ _
  have hregistry : ∀ (catalog : Catalog) (name key : String),
      (catalog.registerRegistry name).contains key = true ↔
        registryKey name = key ∨ catalog.contains key = true :=
    fun catalog name => contains_register catalog _ _ _
  rw [extended, contains_foldl hregistry, contains_foldl hdeclared, contains_builtin]

end Catalog

/-! ### Keys as items of a list -/

/-- A name that no comma cuts and no blank ends. -/
def IsPlainName (name : String) : Prop := ',' ∉ name.toList ∧ ∀ c ∈ name.toList.getLast?, Text.isBlank c = false

instance (name : String) : Decidable (IsPlainName name) := inferInstanceAs (Decidable (_ ∧ _))

/-- Behind a beginning that is itself an item, a plain name makes an item, and no other name does. -/
theorem isListItem_append_iff {beginning : String} (h : Text.IsListItem beginning) (name : String) :
    Text.IsListItem (beginning ++ name) ↔ IsPlainName name := by
  obtain ⟨hne, hcomma, htrim⟩ := h
  have hsome : beginning.toList ≠ [] := by simpa using hne
  have hends := Text.trim_eq_self_iff.mp htrim
  have hfirst : (beginning ++ name).toList.head? = beginning.toList.head? := by
    rw [String.toList_append, List.head?_append_of_ne_nil _ hsome]
  have htrims : Text.trim (beginning ++ name) = beginning ++ name ↔
      ∀ c ∈ (beginning ++ name).toList.getLast?, Text.isBlank c = false := by
    rw [Text.trim_eq_self_iff, hfirst]
    exact and_iff_right hends.1
  have hlast : (∀ c ∈ (beginning ++ name).toList.getLast?, Text.isBlank c = false) ↔
      ∀ c ∈ name.toList.getLast?, Text.isBlank c = false := by
    rw [String.toList_append, List.getLast?_append]
    cases name.toList.getLast? with
    | none => simpa using hends.2
    | some c => rfl
  rw [Text.IsListItem, IsPlainName, htrims, hlast]
  simp [hne, hcomma]

/-- The names of all extensions are plain. -/
def Extensions.PlainNames (e : Extensions) : Prop :=
  (∀ field ∈ e.declaredFields, IsPlainName field.name) ∧ ∀ name ∈ e.registryValues, IsPlainName name

theorem isListItem_of_mem_builtinLabels : ∀ entry ∈ Catalog.builtinLabels, Text.IsListItem entry.1 := by
  decide +kernel

/-- The keys of an extended catalog are items of a list exactly when the names of the extensions are plain. -/
theorem isListItem_of_contains_extended_iff (e : Extensions) :
    (∀ key, (Catalog.extended e).contains key = true → Text.IsListItem key) ↔ e.PlainNames := by
  have hdeclared : Text.IsListItem "UserDefinedInfo." := by decide +kernel
  have hregistry : Text.IsListItem "Registry." := by decide +kernel
  constructor
  · intro h
    constructor
    · intro field hfield
      exact (isListItem_append_iff hdeclared field.name).mp
        (h _ ((Catalog.contains_extended e _).mpr (Or.inr (Or.inl ⟨field, hfield, rfl⟩))))
    · intro name hname
      exact (isListItem_append_iff hregistry name).mp
        (h _ ((Catalog.contains_extended e _).mpr (Or.inl ⟨name, hname, rfl⟩)))
  · rintro ⟨hfields, hnames⟩ key hkey
    rcases (Catalog.contains_extended e key).mp hkey with ⟨name, hname, rfl⟩ | ⟨field, hfield, rfl⟩ |
      ⟨entry, hentry, rfl⟩
    · exact (isListItem_append_iff hregistry name).mpr (hnames name hname)
    · exact (isListItem_append_iff hdeclared field.name).mpr (hfields field hfield)
    · exact isListItem_of_mem_builtinLabels entry hentry

theorem ne_empty_of_contains_extended {e : Extensions} {key : String}
    (h : (Catalog.extended e).contains key = true) : key ≠ "" := by
  rcases (Catalog.contains_extended e key).mp h with ⟨name, _, rfl⟩ | ⟨field, _, rfl⟩ | ⟨entry, hentry, rfl⟩
  · simp [registryKey]
  · simp [declaredKey]
  · exact (isListItem_of_mem_builtinLabels entry hentry).1

end InventorySearch
