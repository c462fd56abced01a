import InventorySearch.Proofs.Group.Store
import InventorySearch.Proofs.Inventory.View
import InventorySearch.Service.CatalogChange

/-! What a request to replace the extensions of the catalog can come to. The checks stand in a fixed order,
and only when all of them pass does the new catalog take over. -/

namespace InventorySearch.Service

/-- The outcomes of replacing the extensions, each with what the checks have found. -/
inductive State.Rebuild (s : State) (e : Extensions) : Outcome → Prop
  | blankName (error : ApiError) (hnames : checkNames e = .error error) : Rebuild s e (s.refuse error)
  | unfitDefaults (error : ConfigError) (hnames : checkNames e = .ok ())
      (hdefaults : s.defaults.check (.extended e) = .error error) : Rebuild s e (s.refuse (.ofConfig error))
  | unreadQueries (reports : List Report) (hnames : checkNames e = .ok ())
      (hdefaults : s.defaults.check (.extended e) = .ok ())
      (hgroups : invalidatedGroups (.extended e) s.defaults s.groups ≠ []) :
      Rebuild s e (s.answer
        (.ofError (invalidatedError (invalidatedGroups (.extended e) s.defaults s.groups))) reports)
  | unfitValue (cause : Cause) (hnames : checkNames e = .ok ())
      (hdefaults : s.defaults.check (.extended e) = .ok ())
      (hgroups : invalidatedGroups (.extended e) s.defaults s.groups = [])
      (hengine : s.engine.retype (.extended e) = .error cause) : Rebuild s e (s.fail cause)
  | published (engine : Engine) (hnames : checkNames e = .ok ())
      (hdefaults : s.defaults.check (.extended e) = .ok ())
      (hgroups : invalidatedGroups (.extended e) s.defaults s.groups = [])
      (hengine : s.engine.retype (.extended e) = .ok engine) : Rebuild s e (s.publish e (.extended e) engine)

theorem State.rebuild_replaceExtensions (s : State) (e : Extensions) : s.Rebuild e (s.replaceExtensions e) := by
  unfold replaceExtensions
  split
  next error hnames => exact .blankName error hnames
  next hnames =>
    simp only
    split
    next error hdefaults => exact .unfitDefaults error hnames hdefaults
    next hdefaults =>
      split
      next hgroups =>
        split
        next cause hengine => exact .unfitValue cause hnames hdefaults hgroups hengine
        next engine hengine => exact .published engine hnames hdefaults hgroups hengine
      next hgroups => exact .unreadQueries _ hnames hdefaults hgroups

/-! ### Checks -/

/-- No name of the extensions is blank. -/
def NamesGiven (e : Extensions) : Prop :=
  (∀ field ∈ e.declaredFields, Text.trim field.name ≠ "") ∧ ∀ name ∈ e.registryValues, Text.trim name ≠ ""

/-- The query of every stored group can be read under a catalog. -/
def QueriesReadable (catalog : Catalog) (defaults : Defaults) (groups : GroupStore) : Prop :=
  ∀ name g query, groups.get? name = some g → g.query = some query →
    ∃ request, savedRequest catalog defaults query = .ok request

theorem checkNames_eq_ok_iff {e : Extensions} : checkNames e = .ok () ↔ NamesGiven e := by
  have hfields : e.declaredFields.any (fun field => Text.isBlankText field.name) = true ↔
      ¬∀ field ∈ e.declaredFields, Text.trim field.name ≠ "" := by simp [Text.isBlankText]
  have hvalues : e.registryValues.any Text.isBlankText = true ↔
      ¬∀ name ∈ e.registryValues, Text.trim name ≠ "" := by simp [Text.isBlankText]
  unfold checkNames NamesGiven
  split_ifs with hfield hvalue
  · simp [hfields.mp hfield]
  · simp [hvalues.mp hvalue]
  · simp only [true_iff]
    exact ⟨not_not.mp (mt hfields.mpr hfield), not_not.mp (mt hvalues.mpr hvalue)⟩

theorem queryReadable_iff {catalog : Catalog} {defaults : Defaults} {g : Group} :
    queryReadable catalog defaults g = true ↔
      ∀ query, g.query = some query → ∃ request, savedRequest catalog defaults query = .ok request := by
  unfold queryReadable
  cases g.query with
  | none => simp
  | some query => simp [exists_ok_iff_toBool]

/-- A store that a readable query is put into stays readable. -/
theorem QueriesReadable.upsert {catalog : Catalog} {defaults : Defaults} {groups : GroupStore}
    (h : QueriesReadable catalog defaults groups) (name : String) (description : Option String)
    {query : Option String}
    (hquery : ∀ text, query = some text → ∃ request, savedRequest catalog defaults text = .ok request) :
    QueriesReadable catalog defaults (groups.upsert name description query) := by
  intro other g text hget htext
  rw [GroupStore.get?_upsert] at hget
  split_ifs at hget
  · cases hget
    exact hquery text htext
  · exact h other g text hget htext

theorem mem_invalidatedGroups_iff {catalog : Catalog} {defaults : Defaults} {groups : GroupStore}
    (hnamed : groups.Named) {name : String} :
    name ∈ invalidatedGroups catalog defaults groups ↔
      ∃ g query, groups.get? name = some g ∧ g.query = some query ∧
        ∀ request, savedRequest catalog defaults query ≠ .ok request := by
  simp only [invalidatedGroups, List.mem_map, List.mem_filter, GroupStore.mem_toList_iff, Bool.not_eq_true',
    ← Bool.not_eq_true, queryReadable_iff]
  push Not
  constructor
  · rintro ⟨g, ⟨⟨stored, hget⟩, query, hquery, hunread⟩, rfl⟩
    exact ⟨g, query, hnamed stored g hget ▸ hget, hquery, hunread⟩
  · rintro ⟨g, query, hget, hquery, hunread⟩
    exact ⟨g, ⟨⟨name, hget⟩, query, hquery, hunread⟩, hnamed name g hget⟩

/-- The names of the groups in question stand in their order, each once. -/
theorem pairwise_invalidatedGroups {catalog : Catalog} {defaults : Defaults} {groups : GroupStore}
    (hnamed : groups.Named) : (invalidatedGroups catalog defaults groups).Pairwise (· < ·) :=
  List.pairwise_map.mpr (hnamed.pairwise_toList.filter _)

theorem invalidatedGroups_eq_nil_iff {catalog : Catalog} {defaults : Defaults} {groups : GroupStore} :
    invalidatedGroups catalog defaults groups = [] ↔ QueriesReadable catalog defaults groups := by
  simp only [invalidatedGroups, List.map_eq_nil_iff, List.filter_eq_nil_iff, GroupStore.mem_toList_iff,
    Bool.not_eq_true', Bool.not_eq_false, queryReadable_iff]
  constructor
  · intro h name g query hget
    exact h g ⟨name, hget⟩ query
  · rintro h g ⟨name, hget⟩ query
    exact h name g query hget

theorem retype_inventory_eq_ok_iff {i : Inventory} {catalog : Catalog} {engine : Engine} :
    (Engine.inventory i).retype catalog = .ok engine ↔
      ∃ view, engine = .inventory ⟨i.records, view⟩ ∧ typeRecords catalog .skip i.records = .ok view := by
  unfold Engine.retype Inventory.retype
  cases htyped : typeRecords catalog .skip i.records with
  | error e => simp [htyped, Except.map]
  | ok view => simp [htyped, Except.map, eq_comm]

/-- An inventory is typed anew exactly when what is stored under known keys converts. -/
theorem exists_retype_inventory_iff {i : Inventory} {catalog : Catalog} :
    (∃ engine, (Engine.inventory i).retype catalog = .ok engine) ↔ ValuesConvert catalog i.records := by
  simp only [retype_inventory_eq_ok_iff, ← exists_typeRecords_skip_iff]
  constructor
  · rintro ⟨_, view, _, hview⟩
    exact ⟨view, hview⟩
  · rintro ⟨view, hview⟩
    exact ⟨_, view, rfl, hview⟩

/-! ### Refusals -/

theorem ApiError.status_ofSearch (e : SearchError) : (ofSearch e).code.status = 400 := by
  cases e <;> rfl

theorem status_of_checkNames {e : Extensions} {error : ApiError} (h : checkNames e = .error error) :
    error.code.status = 400 := by
  unfold checkNames at h
  split_ifs at h <;> cases h <;> rfl

/-- An inventory refuses a catalog for a value that it stores. -/
theorem status_of_retype_inventory {i : Inventory} {catalog : Catalog} {cause : Cause}
    (h : (Engine.inventory i).retype catalog = .error cause) : cause.toApiError.code.status = 400 := by
  unfold Engine.retype at h
  simp only at h
  split at h
  · cases h
  · cases h
    exact ApiError.status_ofSearch _

end InventorySearch.Service
