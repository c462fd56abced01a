import InventorySearch.Proofs.Criterion
import InventorySearch.Proofs.Group.Store
import InventorySearch.Proofs.Inventory.View
import InventorySearch.Proofs.Request.WellFormed
import InventorySearch.Proofs.Service.Step
import InventorySearch.Service.Startup

/-! The catalog, the typed view of the inventory, the stored groups and the defaults always fit together. A
start establishes this by refusing unknown fields, and a change of the catalog keeps it by leaving them out,
since the raw records are never changed. -/

namespace InventorySearch.Service

/-- The parts of the state fit together, for given raw records and defaults. -/
structure Consistent (records : List InventoryRecord) (defaults : Defaults) (s : State) : Prop where
  defaults_eq : s.defaults = defaults
  evaluator_eq : s.evaluator = .savedSearch
  view_typed : ∃ view, s.engine = .inventory ⟨records, view⟩ ∧ typeRecords s.catalog .skip records = .ok view
  defaults_valid : defaults.check s.catalog = .ok ()
  queries_readable : ∀ name g query, s.groups.get? name = some g → g.query = some query →
    ∃ request, savedRequest s.catalog defaults query = .ok request

/-! ### One request -/

/-- What a request can do keeps the parts of the state fitting together. -/
theorem Consistent.step {records : List InventoryRecord} {defaults : Defaults} {s s' : State}
    (h : Consistent records defaults s) (hstep : s.Step s') : Consistent records defaults s' := by
  obtain ⟨view, hengine, hview⟩ := h.view_typed
  cases hstep with
  | same => exact h
  | asked request =>
      refine { h with view_typed := ⟨view, ?_, hview⟩ }
      rw [hengine]
      rfl
  | rebuilt extensions engine hnames hdefaults hgroups hretyped =>
      -- The raw records are typed anew, so that nothing of the view before them counts.
      rw [hengine] at hretyped
      rw [h.defaults_eq] at hdefaults hgroups
      refine { h with
        view_typed := retype_inventory_eq_ok_iff.mp hretyped
        defaults_valid := hdefaults
        queries_readable := invalidatedGroups_eq_nil_iff.mp hgroups }
  | stored name description query hchecked =>
      rw [h.defaults_eq] at hchecked
      exact { h with queries_readable := QueriesReadable.upsert h.queries_readable name description hchecked }
  | removed name g hremoved =>
      refine { h with queries_readable := ?_ }
      intro other g text hget htext
      rw [GroupStore.get?_remove] at hget
      split_ifs at hget
      exact h.queries_readable other g text hget htext
  | forced name g id membership hforced =>
      refine { h with queries_readable := ?_ }
      intro other changed text hget htext
      rw [GroupStore.get?_setMembership] at hget
      split_ifs at hget
      · obtain ⟨stored, hstored, rfl⟩ := Option.map_eq_some_iff.mp hget
        rw [Group.query_setMembership] at htext
        exact h.queries_readable name stored text hstored htext
      · exact h.queries_readable other changed text hget htext

/-! ### The start -/

/-- Groups whose queries are checked have queries that can be read. -/
theorem savedRequest_of_checkQueries {catalog : Catalog} {defaults : Defaults} {groups : List Group}
    (h : DataSet.checkQueries catalog defaults groups = .ok ()) {g : Group} (hg : g ∈ groups) {query : String}
    (hquery : g.query = some query) : ∃ request, savedRequest catalog defaults query = .ok request := by
  have hmem : query ∈ groups.filterMap (·.query) := List.mem_filterMap.mpr ⟨g, hg, hquery⟩
  obtain ⟨request, hrequest, _⟩ := map_eq_ok_iff.mp (forM_eq_ok_iff.mp h query hmem)
  exact ⟨request, hrequest⟩

/-- A start leaves the parts of the state fitting together, for the records of the inventory file. -/
theorem consistent_of_read {files : DataFiles} {defaults : Defaults} {d : DataSet}
    (h : DataSet.read files defaults = .ok d) :
    ∃ records, readConfigured files.inventory (.list InventoryRecord.rule) [] = .ok records ∧
      Consistent records defaults (d.state defaults) := by
  obtain ⟨extensions, _, h⟩ := bind_eq_ok_iff.mp h
  obtain ⟨_, hdefaults, h⟩ := bind_eq_ok_iff.mp h
  obtain ⟨records, hrecords, h⟩ := bind_eq_ok_iff.mp h
  obtain ⟨inventory, hinventory, h⟩ := bind_eq_ok_iff.mp h
  obtain ⟨groups, _, h⟩ := bind_eq_ok_iff.mp h
  obtain ⟨_, hqueries, h⟩ := bind_eq_ok_iff.mp h
  cases h
  rw [mapError_eq_ok_iff] at hdefaults hinventory hqueries
  obtain ⟨view, hview, rfl⟩ := map_eq_ok_iff.mp hinventory
  refine ⟨records, hrecords, rfl, rfl, ⟨view, rfl, typeRecords_skip_of_reject hview⟩, hdefaults, ?_⟩
  intro name g query hget hquery
  exact savedRequest_of_checkQueries hqueries (GroupStore.mem_of_get?_ofList hget) hquery

/-! ### Any requests -/

/-- The state after requests that are answered one after another. -/
def State.after (s : State) (cors : Cors) (requests : List HttpRequest) : State :=
  requests.foldl (fun s r => (cors.exchange s r).outcome.state) s

/-- What holds at first and is kept by each of the requests holds after them. -/
theorem State.after_induction {P : State → Prop} {cors : Cors} {requests : List HttpRequest} {s : State} (h : P s)
    (hkeep : ∀ s, ∀ r ∈ requests, P s → P (cors.exchange s r).outcome.state) : P (s.after cors requests) := by
  induction requests generalizing s with
  | nil => exact h
  | cons r requests ih =>
      apply ih (hkeep s r List.mem_cons_self h)
      intro s later hlater
      exact hkeep s later (List.mem_cons_of_mem r hlater)

theorem Consistent.after {records : List InventoryRecord} {defaults : Defaults} {s : State}
    (h : Consistent records defaults s) (cors : Cors) (requests : List HttpRequest) :
    Consistent records defaults (s.after cors requests) :=
  State.after_induction h fun s r _ hs => hs.step (s.step_exchange cors r)

/-- What is kept by each of the requests as long as the parts of the state fit together holds after them. -/
theorem Consistent.after_induction {records : List InventoryRecord} {defaults : Defaults} {P : State → Prop}
    {cors : Cors} {requests : List HttpRequest} {s : State} (h : Consistent records defaults s) (hs : P s)
    (hkeep : ∀ s', Consistent records defaults s' → ∀ r ∈ requests, P s' → P (cors.exchange s' r).outcome.state) :
    P (s.after cors requests) := by
  have hboth : Consistent records defaults (s.after cors requests) ∧ P (s.after cors requests) := by
    refine State.after_induction (P := fun s' => Consistent records defaults s' ∧ P s') ⟨h, hs⟩ ?_
    rintro s' r hr ⟨hs', hP⟩
    exact ⟨hs'.step (s'.step_exchange cors r), hkeep s' hs' r hr hP⟩
  exact hboth.2

/-- After a start and any requests the parts of the state fit together, for the records of the inventory file. -/
theorem consistent_after {files : DataFiles} {defaults : Defaults} {d : DataSet}
    (hread : DataSet.read files defaults = .ok d) (cors : Cors) (requests : List HttpRequest) :
    ∃ records, readConfigured files.inventory (.list InventoryRecord.rule) [] = .ok records ∧
      Consistent records defaults ((d.state defaults).after cors requests) := by
  obtain ⟨records, hrecords, hstart⟩ := consistent_of_read hread
  exact ⟨records, hrecords, hstart.after cors requests⟩

/-- The catalog is always the built-in one with extensions. -/
theorem exists_extended_after (d : DataSet) (defaults : Defaults) (cors : Cors) (requests : List HttpRequest) :
    ∃ extensions, ((d.state defaults).after cors requests).catalog = .extended extensions := by
  refine State.after_induction (P := fun s => ∃ extensions, s.catalog = .extended extensions) ⟨d.extensions, rfl⟩ ?_
  intro s r _ hs
  have hstep := s.step_exchange cors r
  generalize (cors.exchange s r).outcome.state = s' at hstep
  cases hstep with
  | rebuilt extensions => exact ⟨extensions, rfl⟩
  | _ => exact hs

/-- Every group is stored under its own name. -/
theorem named_groups_after (d : DataSet) (defaults : Defaults) (cors : Cors) (requests : List HttpRequest) :
    ((d.state defaults).after cors requests).groups.Named := by
  refine State.after_induction (P := fun s => s.groups.Named) (GroupStore.named_ofList d.groups) ?_
  intro s r _ hs
  have hstep := s.step_exchange cors r
  generalize (cors.exchange s r).outcome.state = s' at hstep
  cases hstep with
  | stored name description query => exact hs.upsert name description query
  | removed name => exact hs.remove name
  | forced name g id membership => exact hs.setMembership name id membership
  | _ => exact hs

/-! ### What follows -/

/-- The members of a group that is found can always be told, and only those are added to the ones set by hand
that its query finds. -/
theorem Consistent.groupMembers_reply {records : List InventoryRecord} {defaults : Defaults} {s : State}
    (h : Consistent records defaults s) {view : List TypedRecord} (hengine : s.engine = .inventory ⟨records, view⟩)
    {rawName name : String} {g : Group} (hname : groupName rawName = .ok name)
    (hget : s.groups.get? name = some g) :
    ∃ found : IdSet,
      (s.groupMembers rawName).reply = .ofJson (g.membersToJson (resolveMembers found g.overrides)) ∧
      (g.query = none ∧ found = ∅ ∨
        ∃ query request, g.query = some query ∧ savedRequest s.catalog defaults query = .ok request ∧
          found = .ofList ((searchView view { request with distinct := true }).map (·.id))) := by
  have hids : ∃ found : IdSet,
      (s.evaluator.members s.catalog s.defaults s.engine g).ids = .ok (resolveMembers found g.overrides) ∧
      (g.query = none ∧ found = ∅ ∨
        ∃ query request, g.query = some query ∧ savedRequest s.catalog defaults query = .ok request ∧
          found = .ofList ((searchView view { request with distinct := true }).map (·.id))) := by
    rw [h.evaluator_eq, h.defaults_eq, hengine, Evaluator.members]
    cases hquery : g.query with
    | none => exact ⟨∅, rfl, Or.inl ⟨rfl, rfl⟩⟩
    | some query =>
        obtain ⟨request, hrequest⟩ := h.queries_readable name g query hget hquery
        simp only [Evaluator.run, runSavedSearch, hrequest, Engine.resolve_inventory]
        exact ⟨_, rfl, Or.inr ⟨query, request, rfl, hrequest, rfl⟩⟩
  obtain ⟨found, hfound, hcases⟩ := hids
  refine ⟨found, ?_, hcases⟩
  unfold State.groupMembers
  simp only [hname, hget, hfound]

theorem reply_exchange_groupMembers (cors : Cors) (s : State) {r : HttpRequest} {segment rawName : String}
    (hmethod : r.method = .get) (hroute : Route.ofPath? r.path = some (.groupMembers segment))
    (hsegment : Route.decodeSegment? segment = some rawName) :
    (cors.exchange s r).outcome.reply = (s.groupMembers rawName).reply := by
  have hplain : r.method ≠ .options := by simp [hmethod]
  have hwhole : r.method ≠ .head := by simp [hmethod]
  rw [s.reply_exchange hplain hwhole, s.serve_groupMembers hmethod hroute hsegment]

/-- After any requests, accepted or refused, the parts of the state still fit together. The typed view holds
for every stored key the raw values as the catalog types them now, no criterion meets a value of another
type, and the members of a stored group can be told. -/
theorem consistent_after_requests {files : DataFiles} {defaults : Defaults} {d : DataSet}
    (hread : DataSet.read files defaults = .ok d) (cors : Cors) (requests : List HttpRequest) :
    let s := (d.state defaults).after cors requests
    ∃ records view, readConfigured files.inventory (.list InventoryRecord.rule) [] = .ok records ∧
      s.engine = .inventory ⟨records, view⟩ ∧ s.defaults = defaults ∧ s.evaluator = .savedSearch ∧
      defaults.check s.catalog = .ok () ∧
      (∀ name g query, s.groups.get? name = some g → g.query = some query →
        ∃ request, savedRequest s.catalog defaults query = .ok request) ∧
      typeRecords s.catalog .skip records = .ok view ∧
      List.Forall₂ (fun record r => r.id = record.id ∧ r.values = record.valuesUnder s.catalog) records view ∧
      (∀ r ∈ view, ∀ key, ∀ v ∈ r.values key, s.catalog.typeOf? key = some v.valueType) ∧
      (∀ (p : Params) (criteria : List Criterion), p.criteria s.catalog = .ok criteria →
        ∀ c ∈ criteria, ∀ r ∈ view, ∀ v ∈ r.values c.key, v.valueType = c.value.valueType) ∧
      ∀ (r : HttpRequest) (segment rawName name : String) (g : Group), r.method = .get →
        Route.ofPath? r.path = some (.groupMembers segment) → Route.decodeSegment? segment = some rawName →
          groupName rawName = .ok name → s.groups.get? name = some g →
            ∃ members, (cors.exchange s r).outcome.reply = .ofJson (g.membersToJson members) := by
  intro s
  obtain ⟨records, hrecords, h⟩ := consistent_after hread cors requests
  obtain ⟨view, hengine, hview⟩ := h.view_typed
  have htypes : ∀ r ∈ view, ∀ key, ∀ v ∈ r.values key, s.catalog.typeOf? key = some v.valueType :=
    fun r hr key v hv => valueType_of_mem_view hview hr hv
  refine ⟨records, view, hrecords, hengine, h.defaults_eq, h.evaluator_eq, h.defaults_valid, h.queries_readable,
    hview, ?_, htypes, ?_, ?_⟩
  · exact forall₂_of_typeRecords hview
  · intro p criteria hcriteria c hc r hr v hv
    have hkey := (Params.wellFormed_of_criteria hcriteria hc).1.typeOf?_eq
    rw [htypes r hr c.key v hv] at hkey
    exact Option.some.inj hkey
  · intro r segment rawName name g hmethod hroute hsegment hname hget
    rw [reply_exchange_groupMembers cors s hmethod hroute hsegment]
    obtain ⟨found, hreply, _⟩ := h.groupMembers_reply hengine hname hget
    exact ⟨_, hreply⟩

/-- The content of files, which is empty where they are refused. -/
def DataSet.ofFiles (files : DataFiles) (defaults : Defaults) : DataSet :=
  match DataSet.read files defaults with
  | .ok d => d
  | .error _ => ⟨.empty, .empty, []⟩

theorem DataSet.read_ofFiles {files : DataFiles} {defaults : Defaults}
    (hok : (DataSet.read files defaults).toBool = true) :
    DataSet.read files defaults = .ok (DataSet.ofFiles files defaults) := by
  unfold DataSet.ofFiles
  cases hresult : DataSet.read files defaults with
  | ok d => rfl
  | error e =>
      rw [hresult] at hok
      cases hok

/-- A user-defined price, two computers of which one has prices, and a group with a query. -/
def priceFiles : DataFiles where
  catalog := some ⟨"catalog.json", some "[[[\"Price\", \"float\"]]]"⟩
  inventory :=
    some ⟨"inventory.json",
      some "[[1, \x7b\"OsName\": \"Linux\", \"UserDefinedInfo.Price\": [1.5, null]\x7d], [2]]"⟩
  groups := some ⟨"groups.json", some "[[\"Linux\", null, \"filter=OsName&search=Linux\"]]"⟩

def priceData : DataSet :=
  match DataSet.read priceFiles .builtin with
  | .ok d => d
  | .error _ => ⟨.empty, .empty, []⟩

/-- A request that takes the price out of the catalog. -/
def dropPrice : HttpRequest := ⟨.put, "/api/v1/catalog/extensions", "", some "application/json", "[]", none⟩

/-- A request for the members of the group. -/
def askMembers : HttpRequest := ⟨.get, "/api/v1/groups/Linux/members", "", none, "", none⟩

theorem read_priceFiles : DataSet.read priceFiles .builtin = .ok priceData :=
  DataSet.read_ofFiles (by decide +kernel)

theorem ofPath?_askMembers : Route.ofPath? askMembers.path = some (.groupMembers "Linux") := by
  decide +kernel

theorem decodeSegment?_linux : Route.decodeSegment? "Linux" = some "Linux" := by
  decide +kernel

theorem exists_linux_after_dropPrice :
    ∃ g, ((priceData.state .builtin).after ⟨.any, false, 0⟩ [dropPrice]).groups.get? "Linux" = some g := by
  rw [← Option.isSome_iff_exists]
  decide +kernel

theorem members_told_after_dropPrice :
    DataSet.read priceFiles .builtin = .ok priceData ∧
      let cors : Cors := ⟨.any, false, 0⟩
      let s := (priceData.state .builtin).after cors [dropPrice]
      s.catalog.contains "UserDefinedInfo.Price" = false ∧
        ∃ g members, s.groups.get? "Linux" = some g ∧
          (cors.exchange s askMembers).outcome.reply = .ofJson (g.membersToJson members) := by
  have hdropped : ((priceData.state .builtin).after ⟨.any, false, 0⟩ [dropPrice]).catalog.contains
      "UserDefinedInfo.Price" = false := by decide +kernel
  obtain ⟨g, hget⟩ := exists_linux_after_dropPrice
  obtain ⟨_, _, _, _, _, _, _, _, _, _, _, _, hmembers⟩ :=
    consistent_after_requests read_priceFiles ⟨.any, false, 0⟩ [dropPrice]
  obtain ⟨members, hreply⟩ :=
    hmembers askMembers "Linux" "Linux" "Linux" g rfl ofPath?_askMembers decodeSegment?_linux rfl hget
  exact ⟨read_priceFiles, hdropped, g, members, hget, hreply⟩

end InventorySearch.Service
