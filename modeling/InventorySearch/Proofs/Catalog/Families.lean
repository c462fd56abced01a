import InventorySearch.Proofs.Catalog
import Mathlib.Data.List.Induction

/-! The three families of filters: those that are built in, the fields that users defined and the registry values.
Their keys never meet, so that whatever the extensions are called, a filter is only ever replaced by a later one of
its own family. What an extended catalog knows is told by a rule for each family. -/

namespace InventorySearch

def builtinFilter (entry : String × String) : FilterDefinition := ⟨entry.1, entry.2, Catalog.builtinType entry.1⟩

def DeclaredField.filter (field : DeclaredField) : FilterDefinition :=
  ⟨declaredKey field.name, "User defined: " ++ field.name, field.declaredType.valueType⟩

def registryFilter (name : String) : FilterDefinition := ⟨registryKey name, "Registry: " ++ name, .text⟩

/-- The filters that there are with extensions: those that are built in, of the declared fields with one name the last
one, and one for each registry value. -/
inductive Extensions.Defines (e : Extensions) : FilterDefinition → Prop where
  | builtin {entry : String × String} (h : entry ∈ Catalog.builtinLabels) : Defines e (builtinFilter entry)
  | declared {before after : List DeclaredField} {field : DeclaredField}
      (h : e.declaredFields = before ++ field :: after) (hlast : ∀ later ∈ after, later.name ≠ field.name) :
      Defines e field.filter
  | registry {name : String} (h : name ∈ e.registryValues) : Defines e (registryFilter name)

/-! ### Keys of different families -/

theorem declaredKey_injective {a b : String} (h : declaredKey a = declaredKey b) : a = b := by
  simpa [declaredKey] using h

theorem registryKey_injective {a b : String} (h : registryKey a = registryKey b) : a = b := by
  simpa [registryKey] using h

theorem declaredKey_ne_registryKey (a b : String) : declaredKey a ≠ registryKey b := by
  intro h
  simpa [declaredKey, registryKey] using congrArg (·.toList.head?) h

/-- No built-in filter has a key that begins like those of the extensions. -/
theorem ne_append_of_mem_builtinLabels {beginning : String}
    (h : beginning = "UserDefinedInfo." ∨ beginning = "Registry.") {entry : String × String}
    (hentry : entry ∈ Catalog.builtinLabels) (name : String) : entry.1 ≠ beginning ++ name := by
  have hbuiltin : ∀ entry ∈ Catalog.builtinLabels, ¬"UserDefinedInfo.".toList <+: entry.1.toList ∧
      ¬"Registry.".toList <+: entry.1.toList := by decide +kernel
  have hprefix : beginning.toList <+: (beginning ++ name).toList :=
    String.toList_append ▸ List.prefix_append _ _
  intro heq
  rw [← heq] at hprefix
  rcases h with rfl | rfl
  · exact (hbuiltin entry hentry).1 hprefix
  · exact (hbuiltin entry hentry).2 hprefix

theorem builtin_ne_declaredKey {entry : String × String} (h : entry ∈ Catalog.builtinLabels) (name : String) :
    entry.1 ≠ declaredKey name :=
  ne_append_of_mem_builtinLabels (Or.inl rfl) h name

theorem builtin_ne_registryKey {entry : String × String} (h : entry ∈ Catalog.builtinLabels) (name : String) :
    entry.1 ≠ registryKey name :=
  ne_append_of_mem_builtinLabels (Or.inr rfl) h name

namespace Catalog

/-! ### Registering -/

theorem lookup?_register (catalog : Catalog) (key label : String) (t : ValueType) (other : String) :
    (catalog.register key label t).lookup? other =
      if key = other then some ⟨key, label, t⟩ else catalog.lookup? other := by
  simp only [lookup?, register, Std.TreeMap.getElem?_insert, Std.LawfulEqCmp.compare_eq_iff_eq]
  split_ifs with heq
  · rw [heq, Option.map_some]
  · rfl

theorem lookup?_registerDeclared (catalog : Catalog) (field : DeclaredField) (key : String) :
    (catalog.registerDeclared field).lookup? key =
      if field.filter.key = key then some field.filter else catalog.lookup? key :=
  lookup?_register catalog _ _ _ key

theorem lookup?_registerRegistry (catalog : Catalog) (name key : String) :
    (catalog.registerRegistry name).lookup? key =
      if (registryFilter name).key = key then some (registryFilter name) else catalog.lookup? key :=
  lookup?_register catalog _ _ _ key

/-- What is registered last under a key is what the key means. -/
theorem lookup?_foldl {α : Type} {add : Catalog → α → Catalog} (filter : α → FilterDefinition)
    (hadd : ∀ catalog a key, (add catalog a).lookup? key =
      if (filter a).key = key then some (filter a) else catalog.lookup? key)
    (items : List α) (catalog : Catalog) (key : String) :
    (items.foldl add catalog).lookup? key =
      ((items.reverse.find? fun a => (filter a).key = key).map filter).or (catalog.lookup? key) := by
  induction items using List.reverseRecOn with
  | nil => rfl
  | append_singleton items a ih =>
      rw [List.foldl_append, List.foldl_cons, List.foldl_nil, hadd, List.reverse_concat, List.find?_cons]
      split_ifs with hkey
      · simp [hkey]
      · simp [hkey, ih]

theorem find?_reverse_eq_some_iff {α : Type} {p : α → Bool} {items : List α} {a : α} :
    items.reverse.find? p = some a ↔
      p a = true ∧ ∃ before after, items = before ++ a :: after ∧ ∀ later ∈ after, p later = false := by
  rw [List.find?_eq_some_iff_append]
  refine and_congr_right fun _ => ⟨?_, ?_⟩
  · rintro ⟨after, before, hitems, hlater⟩
    refine ⟨before.reverse, after.reverse, ?_, by simpa using hlater⟩
    rw [← List.reverse_reverse items, hitems]
    simp
  · rintro ⟨before, after, rfl, hlater⟩
    exact ⟨after.reverse, before.reverse, by simp, by simpa using hlater⟩

/-! ### Extended catalogs -/

theorem lookup?_builtin (key : String) :
    builtin.lookup? key = (builtinLabels.reverse.find? fun entry => (builtinFilter entry).key = key).map builtinFilter := by
  have hempty : empty.lookup? key = none := by simp [lookup?, empty]
  have hfold := lookup?_foldl builtinFilter (fun catalog entry => lookup?_register catalog _ _ _) builtinLabels empty key
  rwa [hempty, Option.or_none] at hfold

theorem lookup?_extended (e : Extensions) (key : String) :
    (extended e).lookup? key =
      ((e.registryValues.reverse.find? fun name => (registryFilter name).key = key).map registryFilter).or
        (((e.declaredFields.reverse.find? fun field => field.filter.key = key).map DeclaredField.filter).or
          (builtin.lookup? key)) := by
  rw [extended, lookup?_foldl registryFilter lookup?_registerRegistry,
    lookup?_foldl DeclaredField.filter lookup?_registerDeclared]

variable {e : Extensions} {key : String} {d : FilterDefinition}

theorem defines_of_lookup?_extended (h : (extended e).lookup? key = some d) : d.key = key ∧ e.Defines d := by
  rw [lookup?_extended, Option.or_eq_some_iff, Option.or_eq_some_iff, lookup?_builtin] at h
  rcases h with hregistry | ⟨_, hdeclared | ⟨_, hbuiltin⟩⟩
  · obtain ⟨name, hname, rfl⟩ := Option.map_eq_some_iff.mp hregistry
    obtain ⟨hkey, before, after, hvalues, _⟩ := find?_reverse_eq_some_iff.mp hname
    exact ⟨of_decide_eq_true hkey, .registry (by simp [hvalues])⟩
  · obtain ⟨field, hfield, rfl⟩ := Option.map_eq_some_iff.mp hdeclared
    obtain ⟨hkey, before, after, hfields, hlater⟩ := find?_reverse_eq_some_iff.mp hfield
    have hkey : declaredKey field.name = key := of_decide_eq_true hkey
    refine ⟨hkey, .declared hfields fun later hmem hname => ?_⟩
    exact of_decide_eq_false (hlater later hmem) ((congrArg declaredKey hname).trans hkey)
  · obtain ⟨entry, hentry, rfl⟩ := Option.map_eq_some_iff.mp hbuiltin
    obtain ⟨hkey, before, after, hlabels, _⟩ := find?_reverse_eq_some_iff.mp hentry
    exact ⟨of_decide_eq_true hkey, .builtin (by simp [hlabels])⟩

theorem lookup?_extended_of_defines (h : e.Defines d) : (extended e).lookup? d.key = some d := by
  rw [lookup?_extended]
  cases h with
  | @builtin entry h =>
      have hregistry : (e.registryValues.reverse.find? fun name => (registryFilter name).key = entry.1) = none := by
        simpa using fun name _ heq => builtin_ne_registryKey h name heq.symm
      have hdeclared : (e.declaredFields.reverse.find? fun field => field.filter.key = entry.1) = none := by
        simpa using fun field _ heq => builtin_ne_declaredKey h field.name heq.symm
      have hbuiltin : ∀ entry ∈ builtinLabels, (builtinLabels.reverse.find? fun other =>
          (builtinFilter other).key = entry.1) = some entry := by decide +kernel
      rw [builtinFilter, hregistry, hdeclared, lookup?_builtin, hbuiltin entry h]
      rfl
  | @declared before after field h hlast =>
      have hregistry : (e.registryValues.reverse.find? fun name => (registryFilter name).key = field.filter.key) =
          none := by
        simpa using fun name _ heq => declaredKey_ne_registryKey field.name name heq.symm
      have hdeclared : (e.declaredFields.reverse.find? fun other => other.filter.key = field.filter.key) =
          some field := by
        refine find?_reverse_eq_some_iff.mpr ⟨decide_eq_true rfl, before, after, h, fun later hmem => ?_⟩
        exact decide_eq_false fun heq => hlast later hmem (declaredKey_injective heq)
      rw [hregistry, hdeclared]
      rfl
  | @registry name h =>
      have hregistry : (e.registryValues.reverse.find? fun other => (registryFilter other).key =
          (registryFilter name).key) = some name := by
        cases hfound : e.registryValues.reverse.find? fun other =>
            (registryFilter other).key = (registryFilter name).key with
        | none => simpa using List.find?_eq_none.mp hfound name (List.mem_reverse.mpr h)
        | some other =>
            have hkey := of_decide_eq_true (find?_reverse_eq_some_iff.mp hfound).1
            rw [registryKey_injective hkey]
      rw [hregistry]
      rfl

/-! ### All filters -/

theorem lookup?_extended_eq_some_iff : (extended e).lookup? key = some d ↔ d.key = key ∧ e.Defines d := by
  refine ⟨defines_of_lookup?_extended, ?_⟩
  rintro ⟨rfl, h⟩
  exact lookup?_extended_of_defines h

theorem mem_definitions_iff {catalog : Catalog} : d ∈ catalog.definitions ↔ catalog.lookup? d.key = some d := by
  rw [definitions, lookup?, List.mem_map, Option.map_eq_some_iff]
  constructor
  · rintro ⟨⟨key, entry⟩, hentry, rfl⟩
    exact ⟨entry, Std.TreeMap.mem_toList_iff_getElem?_eq_some.mp hentry, rfl⟩
  · rintro ⟨entry, hentry, hd⟩
    exact ⟨(d.key, entry), Std.TreeMap.mem_toList_iff_getElem?_eq_some.mpr hentry, hd⟩

/-- The filters are in the strict order of their keys, so that no key is there twice. -/
theorem pairwise_definitions (catalog : Catalog) : catalog.definitions.Pairwise fun a b => a.key < b.key := by
  have hkeys : catalog.entries.toList.Pairwise fun a b => compare a.1 b.1 = .lt := Std.TreeMap.ordered_keys_toList
  rw [definitions, List.pairwise_map]
  exact hkeys.imp fun hlt => compareOfLessAndEq_eq_lt.mp hlt

theorem lookup?_extended_congr {other : Extensions} (h : ∀ d, d.key = key → (other.Defines d ↔ e.Defines d)) :
    (extended other).lookup? key = (extended e).lookup? key := by
  ext d
  rw [lookup?_extended_eq_some_iff, lookup?_extended_eq_some_iff]
  exact and_congr_right (h d)

/-- What a key of one family means does not depend on the extensions of the other one. -/
theorem lookup?_extended_declaredKey {other : Extensions} (h : other.declaredFields = e.declaredFields) (name : String) :
    (extended other).lookup? (declaredKey name) = (extended e).lookup? (declaredKey name) := by
  have hsame : ∀ {a b : Extensions}, a.declaredFields = b.declaredFields → ∀ d : FilterDefinition,
      d.key = declaredKey name → a.Defines d → b.Defines d := by
    intro a b hfields d hkey hd
    cases hd with
    | builtin h => exact .builtin h
    | declared h hlast => exact .declared (hfields ▸ h) hlast
    | registry h => exact absurd hkey.symm (declaredKey_ne_registryKey _ _)
  exact lookup?_extended_congr fun d hkey => ⟨hsame h d hkey, hsame h.symm d hkey⟩

theorem lookup?_extended_registryKey {other : Extensions} (h : other.registryValues = e.registryValues) (name : String) :
    (extended other).lookup? (registryKey name) = (extended e).lookup? (registryKey name) := by
  have hsame : ∀ {a b : Extensions}, a.registryValues = b.registryValues → ∀ d : FilterDefinition,
      d.key = registryKey name → a.Defines d → b.Defines d := by
    intro a b hvalues d hkey hd
    cases hd with
    | builtin h => exact .builtin h
    | declared h hlast => exact absurd hkey (declaredKey_ne_registryKey _ _)
    | registry h => exact .registry (hvalues ▸ h)
  exact lookup?_extended_congr fun d hkey => ⟨hsame h d hkey, hsame h.symm d hkey⟩

theorem lookup?_extended_eq_none_iff :
    (extended e).lookup? key = none ↔ key ∉ builtinLabels.map (·.1) ∧
      key ∉ e.declaredFields.map (declaredKey ·.name) ∧ key ∉ e.registryValues.map registryKey := by
  have hcontains := contains_extended e key
  rw [contains, Option.isSome_iff_ne_none] at hcontains
  rw [← not_iff_not, ← Ne, hcontains]
  simp only [List.mem_map, not_and_or, not_not]
  exact or_comm.trans (or_assoc.trans or_left_comm)

theorem lookup?_extended_of_builtin (h : builtin.contains key = true) :
    (extended e).lookup? key = builtin.lookup? key := by
  obtain ⟨d, hd⟩ := Option.isSome_iff_exists.mp h
  have hempty : extended Extensions.empty = builtin := by
    simp only [extended, Extensions.empty, List.foldl_nil]
  obtain ⟨hkey, hdefines⟩ := defines_of_lookup?_extended (hempty.symm ▸ hd)
  rw [hd, lookup?_extended_eq_some_iff]
  refine ⟨hkey, ?_⟩
  cases hdefines with
  | builtin h => exact .builtin h
  | declared h _ => simp [Extensions.empty] at h
  | registry h => simp [Extensions.empty] at h

/-- Whatever the extensions are called, an extended catalog knows the filters of three families. A key means the
built-in filter, else the last of the declared fields of that name, else the registry value, and nothing else is known.
No key is in two families, so that extensions neither replace nor retype a built-in filter or one of the other family.
All filters are listed once, in the strict order of their keys. -/
theorem extended_catalog_keeps_families_apart (e : Extensions) :
    (∀ key d, (extended e).lookup? key = some d ↔ d.key = key ∧ e.Defines d) ∧
      (∀ key, (extended e).lookup? key = none ↔ key ∉ builtinLabels.map (·.1) ∧
        key ∉ e.declaredFields.map (declaredKey ·.name) ∧ key ∉ e.registryValues.map registryKey) ∧
      (∀ key, builtin.contains key = true → (extended e).lookup? key = builtin.lookup? key) ∧
      (∀ (other : Extensions) (name : String),
        (other.declaredFields = e.declaredFields →
          (extended other).lookup? (declaredKey name) = (extended e).lookup? (declaredKey name)) ∧
        (other.registryValues = e.registryValues →
          (extended other).lookup? (registryKey name) = (extended e).lookup? (registryKey name))) ∧
      (∀ name other, declaredKey name ≠ registryKey other ∧ declaredKey name ∉ builtinLabels.map (·.1) ∧
        registryKey other ∉ builtinLabels.map (·.1)) ∧
      (extended e).definitions.Pairwise (fun a b => a.key < b.key) ∧
      ∀ d, d ∈ (extended e).definitions ↔ (extended e).lookup? d.key = some d := by
  refine ⟨fun key d => lookup?_extended_eq_some_iff, fun key => lookup?_extended_eq_none_iff,
    fun key => lookup?_extended_of_builtin, fun other name => ⟨?declared, ?registry⟩, fun name other => ⟨?apart, ?_, ?_⟩,
    pairwise_definitions _, fun d => mem_definitions_iff⟩
  case declared => exact fun h => lookup?_extended_declaredKey h name
  case registry => exact fun h => lookup?_extended_registryKey h name
  case apart => exact declaredKey_ne_registryKey name other
  · exact fun hmem => (List.mem_map.mp hmem).elim fun entry h => builtin_ne_declaredKey h.1 name h.2
  · exact fun hmem => (List.mem_map.mp hmem).elim fun entry h => builtin_ne_registryKey h.1 other h.2

/-- Two declared fields of one name, which is also that of a registry value and of a built-in filter. -/
def clashingExtensions : Extensions :=
  ⟨[⟨"OsName", .date⟩, ⟨"Price", .float⟩, ⟨"OsName", .integer⟩], ["OsName", "OsName"]⟩

theorem clashing_names_kept_apart :
    let catalog := extended clashingExtensions
    (catalog.lookup? "UserDefinedInfo.OsName").map (·.valueType) = some .integer ∧
      (catalog.lookup? "Registry.OsName").map (·.valueType) = some .text ∧
      builtin.contains "OsName" = true ∧ catalog.lookup? "OsName" = builtin.lookup? "OsName" ∧
      catalog.lookup? "UserDefinedInfo.Nothing" = none := by
  intro catalog
  obtain ⟨hsome, hnone, hbuiltin, _⟩ := extended_catalog_keeps_families_apart clashingExtensions
  have hknown : builtin.contains "OsName" = true := by decide +kernel
  have hfields : clashingExtensions.declaredFields =
      [⟨"OsName", .date⟩, ⟨"Price", .float⟩] ++ ⟨"OsName", .integer⟩ :: [] := rfl
  have hdeclared : catalog.lookup? "UserDefinedInfo.OsName" = some (DeclaredField.filter ⟨"OsName", .integer⟩) :=
    (hsome _ _).mpr ⟨rfl, .declared hfields (by simp)⟩
  have hregistry : catalog.lookup? "Registry.OsName" = some (registryFilter "OsName") :=
    (hsome _ _).mpr ⟨rfl, .registry (by decide)⟩
  exact ⟨by rw [hdeclared]; rfl, by rw [hregistry]; rfl, hknown, hbuiltin _ hknown, (hnone _).mpr (by decide +kernel)⟩

end Catalog

end InventorySearch
