import InventorySearch.Proofs.Json
import InventorySearch.Proofs.Service.Frame

/-! When other extensions take over: exactly when no name is blank, and the defaults, the query of every stored
group and every stored value fit the new catalog. Otherwise the request is at fault, never the service. -/

namespace InventorySearch.Service

/-- What is asked of extensions before they take over. -/
structure Acceptable (e : Extensions) (defaults : Defaults) (groups : GroupStore) (records : List InventoryRecord) :
    Prop where
  names_given : NamesGiven e
  defaults_known : defaults.check (.extended e) = .ok ()
  queries_readable : QueriesReadable (.extended e) defaults groups
  values_convert : ValuesConvert (.extended e) records

variable {records : List InventoryRecord} {defaults : Defaults} {s : State} {e : Extensions}

/-- Extensions are published when they are acceptable, and otherwise refused as a fault of the request. -/
theorem Consistent.replaceExtensions_cases (h : Consistent records defaults s) (e : Extensions) :
    (Acceptable e defaults s.groups records ∧
        ∃ view, typeRecords (.extended e) .skip records = .ok view ∧
          s.replaceExtensions e = s.publish e (.extended e) (.inventory ⟨records, view⟩)) ∨
      ¬Acceptable e defaults s.groups records ∧ (s.replaceExtensions e).reply.status = 400 := by
  obtain ⟨old, hold, _⟩ := h.view_typed
  have hrebuild := s.rebuild_replaceExtensions e
  generalize s.replaceExtensions e = o at hrebuild
  -- Each check that fails contradicts one of the conditions, and they all hold when none of them fails.
  cases hrebuild with
  | blankName error hnames =>
      refine Or.inr ⟨fun hfit => ?_, status_of_checkNames hnames⟩
      rw [checkNames_eq_ok_iff.mpr hfit.names_given] at hnames
      cases hnames
  | unfitDefaults error _ hdefaults =>
      refine Or.inr ⟨fun hfit => ?_, rfl⟩
      rw [h.defaults_eq, hfit.defaults_known] at hdefaults
      cases hdefaults
  | unreadQueries reports _ _ hgroups =>
      refine Or.inr ⟨fun hfit => hgroups ?_, rfl⟩
      rw [h.defaults_eq]
      exact invalidatedGroups_eq_nil_iff.mpr hfit.queries_readable
  | unfitValue cause _ _ _ hengine =>
      rw [hold] at hengine
      refine Or.inr ⟨fun hfit => ?_, status_of_retype_inventory hengine⟩
      have hconvert : ValuesConvert (.extended e) (Inventory.mk records old).records := hfit.values_convert
      obtain ⟨engine, hretyped⟩ := exists_retype_inventory_iff.mpr hconvert
      rw [hretyped] at hengine
      cases hengine
  | published engine hnames hdefaults hgroups hengine =>
      rw [h.defaults_eq] at hdefaults hgroups
      rw [hold] at hengine
      have hfit : Acceptable e defaults s.groups records :=
        { names_given := checkNames_eq_ok_iff.mp hnames
          defaults_known := hdefaults
          queries_readable := invalidatedGroups_eq_nil_iff.mp hgroups
          values_convert := exists_retype_inventory_iff.mp ⟨engine, hengine⟩ }
      obtain ⟨view, rfl, hview⟩ := retype_inventory_eq_ok_iff.mp hengine
      exact Or.inl ⟨hfit, view, hview, rfl⟩

theorem Consistent.reply_of_unread_queries (h : Consistent records defaults s) (hnames : NamesGiven e)
    (hdefaults : defaults.check (.extended e) = .ok ())
    (hunread : ¬QueriesReadable (.extended e) defaults s.groups) :
    (s.replaceExtensions e).reply =
      .ofError (invalidatedError (invalidatedGroups (.extended e) defaults s.groups)) := by
  have hgroups : invalidatedGroups (.extended e) s.defaults s.groups ≠ [] := by
    rw [h.defaults_eq]
    exact mt invalidatedGroups_eq_nil_iff.mp hunread
  have hrebuild := s.rebuild_replaceExtensions e
  generalize s.replaceExtensions e = o at hrebuild
  cases hrebuild with
  | blankName error hblank =>
      rw [checkNames_eq_ok_iff.mpr hnames] at hblank
      cases hblank
  | unfitDefaults error _ hunfit =>
      rw [h.defaults_eq, hdefaults] at hunfit
      cases hunfit
  | unreadQueries reports =>
      rw [h.defaults_eq]
      rfl
  | unfitValue cause _ _ hnone => exact absurd hnone hgroups
  | published engine _ _ hnone => exact absurd hnone hgroups

theorem get?_details_invalidatedError (names : List String) :
    (invalidatedError names).toJson.get? "details" = some (.ofMembers [("groups", .ofTexts names)]) :=
  Json.get?_ofMembers _ _

/-- A request for other extensions, in a body that is read, succeeds exactly when they are acceptable. Then the new
catalog holds, and searches run over all raw records as it types them, until other extensions are accepted.
Otherwise the status is 400, and where only the queries of groups stand in the way the reply names these groups in
their order. -/
theorem extensions_accepted_iff {files : DataFiles} {defaults : Defaults} {d : DataSet}
    (hread : DataSet.read files defaults = .ok d) (cors : Cors) (requests : List HttpRequest) {r : HttpRequest}
    {e : Extensions} (hmethod : r.method = .put) (hroute : Route.ofPath? r.path = some .extensions)
    (hbody : r.readBody Extensions.rule = .ok e) :
    let s := (d.state defaults).after cors requests
    let o := (cors.exchange s r).outcome
    ∃ records view, readConfigured files.inventory (.list InventoryRecord.rule) [] = .ok records ∧
      s.engine = .inventory ⟨records, view⟩ ∧
      (o.reply.status = 200 ↔ Acceptable e defaults s.groups records) ∧
      (o.reply.status ≠ 200 → o.reply.status = 400) ∧
      (o.reply.status = 200 →
        ∃ view', List.Forall₂ (fun record r => r.id = record.id ∧ r.values = record.valuesUnder (.extended e))
            records view' ∧
          ∀ later, KeepsCatalog cors o.state later →
            let s' := o.state.after cors later
            s'.catalog = .extended e ∧
              ∀ request, s'.engine.resolve request = (s'.engine, .ok (searchView view' request))) ∧
      (NamesGiven e → defaults.check (.extended e) = .ok () → ¬QueriesReadable (.extended e) defaults s.groups →
        ∃ body details names, o.reply.body = some body ∧ body.get? "details" = some details ∧
          details.get? "groups" = some (.ofTexts names) ∧ names.Pairwise (· < ·) ∧
          ∀ name, name ∈ names ↔ ∃ g query, s.groups.get? name = some g ∧ g.query = some query ∧
            ∀ request, savedRequest (.extended e) defaults query ≠ .ok request) := by
  intro s o
  obtain ⟨records, hrecords, h⟩ := consistent_after hread cors requests
  obtain ⟨view, hengine, _⟩ := h.view_typed
  have hnamed : s.groups.Named := named_groups_after d defaults cors requests
  have hplain : r.method ≠ .options := by simp [hmethod]
  have hwhole : r.method ≠ .head := by simp [hmethod]
  have hserve : s.serve r = s.replaceExtensions e := s.serve_replaceExtensions hmethod hroute hbody
  have hreply : o.reply = (s.replaceExtensions e).reply := by rw [s.reply_exchange hplain hwhole, hserve]
  have hstate : o.state = (s.replaceExtensions e).state := by rw [s.state_exchange hplain, hserve]
  refine ⟨records, view, hrecords, hengine, ?_, ?_, ?_, ?_⟩
  · rw [hreply]
    rcases h.replaceExtensions_cases e with ⟨hfit, _, _, hpublished⟩ | ⟨hunfit, hstatus⟩
    · rw [hpublished]
      exact iff_of_true rfl hfit
    · rw [hstatus]
      exact iff_of_false (by decide) hunfit
  · rw [hreply]
    rcases h.replaceExtensions_cases e with ⟨_, _, _, hpublished⟩ | ⟨_, hstatus⟩
    · rw [hpublished]
      exact fun hrefused => absurd rfl hrefused
    · exact fun _ => hstatus
  · intro haccepted
    rw [hreply] at haccepted
    rcases h.replaceExtensions_cases e with ⟨_, view', hview', hpublished⟩ | ⟨_, hstatus⟩
    · have hpublic : o.state.catalog = .extended e ∧ o.state.engine = .inventory ⟨records, view'⟩ := by
        rw [hstate, hpublished]
        exact ⟨rfl, rfl⟩
      refine ⟨view', forall₂_of_typeRecords hview', fun later hkeeps => ?_⟩
      obtain ⟨hcatalog, hsame⟩ := (h.step (s.step_exchange cors r)).catalog_after hkeeps
      refine ⟨hcatalog.trans hpublic.1, fun request => ?_⟩
      rw [hsame.trans hpublic.2]
      rfl
    · rw [haccepted] at hstatus
      cases hstatus
  · intro hnames hdefaults hunread
    refine ⟨_, _, invalidatedGroups (.extended e) defaults s.groups, ?_, get?_details_invalidatedError _,
      Json.get?_ofMembers _ _, pairwise_invalidatedGroups hnamed, fun name => mem_invalidatedGroups_iff hnamed⟩
    rw [hreply, h.reply_of_unread_queries hnames hdefaults hunread]
    rfl

theorem dropPrice_accepted :
    DataSet.read priceFiles .builtin = .ok priceData ∧
      Route.ofPath? dropPrice.path = some .extensions ∧ dropPrice.readBody Extensions.rule = .ok .empty ∧
      ∃ records, readConfigured priceFiles.inventory (.list InventoryRecord.rule) [] = .ok records ∧
        Acceptable .empty .builtin (priceData.state .builtin).groups records := by
  have hroute : Route.ofPath? dropPrice.path = some .extensions := by decide +kernel
  have hbody : dropPrice.readBody Extensions.rule = .ok .empty := by decide +kernel
  have hstatus : (Cors.exchange ⟨.any, false, 0⟩ (priceData.state .builtin) dropPrice).outcome.reply.status = 200 := by
    decide +kernel
  obtain ⟨records, view, hrecords, _, hiff, _⟩ :=
    extensions_accepted_iff read_priceFiles ⟨.any, false, 0⟩ [] rfl hroute hbody
  exact ⟨read_priceFiles, hroute, hbody, records, hrecords, hiff.mp hstatus⟩

end InventorySearch.Service
