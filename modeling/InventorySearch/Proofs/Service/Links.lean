import InventorySearch.Proofs.Catalog
import InventorySearch.Proofs.Inventory.Presentation
import InventorySearch.Proofs.Json
import InventorySearch.Proofs.Request.Link
import InventorySearch.Proofs.Service.Consistency
import InventorySearch.Service.Computers

/-! Following the link that a list of computers gives for itself. It always leads to a list, of the same computers
in the same order. Whether it is the same list in every case depends on the names of the extensions: a comma in
a name, or a blank at its end, does not survive among the columns. -/

namespace InventorySearch.Service

theorem get?_columns_listToJson (request : SearchRequest) (rows : List Row) :
    (listToJson request rows).get? "columns" = some (.ofTexts request.columns) :=
  Json.get?_ofMembers _ _

theorem get?_query_listToJson (request : SearchRequest) (rows : List Row) :
    (listToJson request rows).get? "query" = some (.string (QueryString.encode request.queryPairs)) :=
  Json.get?_ofMembers _ _

section List

variable {records : List InventoryRecord} {defaults : Defaults} {s : State} {view : List TypedRecord}

theorem reply_exchange_listComputers (cors : Cors) (s : State) {r : HttpRequest} (hmethod : r.method = .get)
    (hpath : r.path = listPath) : (cors.exchange s r).outcome.reply = (s.listComputers r.query).reply := by
  have hroute : Route.ofPath? r.path = some .computers := by
    rw [hpath]
    decide
  have hplain : r.method ≠ .options := by simp [hmethod]
  have hwhole : r.method ≠ .head := by simp [hmethod]
  rw [s.reply_exchange hplain hwhole, s.serve_listComputers hmethod hroute]

theorem State.sendBack_ne_ofJson (s : State) (query : String) (customSearch : Bool) (e : SearchError) (body : Json) :
    (s.sendBack query customSearch e).reply ≠ .ofJson body := by
  unfold State.sendBack
  cases customSearch <;> simp [State.answer, Reply.seeOther, Reply.ofJson]

/-- A list is shown exactly when the query is read as a request, and it shows what that request finds. -/
theorem Consistent.listComputers_eq_ofJson_iff (h : Consistent records defaults s)
    (hengine : s.engine = .inventory ⟨records, view⟩) {query : String} {body : Json} :
    (s.listComputers query).reply = .ofJson body ↔
      ∃ request,
        (QueryString.decode query).request s.catalog defaults
            (.listView ((QueryString.decode query).contains "customSearch")) = .ok request ∧
          body = listToJson request (searchView view request) := by
  unfold State.listComputers
  rw [h.defaults_eq, hengine]
  cases hrequest : (QueryString.decode query).request s.catalog defaults
      (.listView ((QueryString.decode query).contains "customSearch")) with
  | error e =>
      simp only [hrequest]
      exact iff_of_false (s.sendBack_ne_ofJson _ _ _ _) (by simp)
  | ok request =>
      simp only [hrequest, Engine.resolve_inventory, Except.ok.injEq, exists_eq_left']
      constructor
      · intro hreply
        exact (Option.some.inj (congrArg Reply.body hreply)).symm
      · rintro rfl
        rfl

/-- The link of a list leads to the list of the same request with the columns that come back. -/
theorem Consistent.listComputers_link (h : Consistent records defaults s)
    (hengine : s.engine = .inventory ⟨records, view⟩) {request : SearchRequest}
    (hwell : request.WellFormed s.catalog) (horder : request.order ≠ "") :
    let link := { request with columns := request.linkColumns s.catalog defaults, customSearch := false }
    (s.listComputers (QueryString.encode request.queryPairs)).reply =
      .ofJson (listToJson link (searchView view link)) := by
  have hread := SearchRequest.request_link hwell horder defaults
  obtain ⟨_, _, _, _, _, _, hplain⟩ := Params.request_eq_ok_iff.mp hread
  refine (h.listComputers_eq_ofJson_iff hengine).mpr ⟨_, ?_, rfl⟩
  rw [← hplain]
  exact hread

/-- The link of a list leads to a list of the same computers in the same order, for a request that differs at
most in its columns, and not even there when these are items of a list. -/
theorem Consistent.follow_link (h : Consistent records defaults s) (hengine : s.engine = .inventory ⟨records, view⟩)
    {extensions : Extensions} (hcatalog : s.catalog = .extended extensions) (cors : Cors) {r : HttpRequest}
    (hmethod : r.method = .get) (hpath : r.path = listPath) {body : Json}
    (hreply : (cors.exchange s r).outcome.reply = .ofJson body) :
    ∃ request rows link columns rows', body = listToJson request rows ∧
      body.get? "query" = some (.string link) ∧
      (cors.exchange s { r with query := link }).outcome.reply =
        .ofJson (listToJson { request with columns := columns } rows') ∧
      rows'.map (·.id) = rows.map (·.id) ∧
      (∀ column ∈ request.columns, s.catalog.contains column = true) ∧
      ((∀ column ∈ request.columns, Text.IsListItem column) → columns = request.columns ∧ rows' = rows) := by
  rw [reply_exchange_listComputers cors s hmethod hpath] at hreply
  obtain ⟨request, hrequest, rfl⟩ := (h.listComputers_eq_ofJson_iff hengine).mp hreply
  have hwell : request.WellFormed s.catalog := SearchRequest.wellFormed_of_request h.defaults_valid hrequest
  have horder : request.order ≠ "" := ne_empty_of_contains_extended (hcatalog ▸ hwell.order_known)
  refine ⟨request, _, QueryString.encode request.queryPairs, request.linkColumns s.catalog defaults, _, rfl,
    get?_query_listToJson _ _, ?_, map_id_searchView view request (request.linkColumns s.catalog defaults) false,
    hwell.columns_known, ?_⟩
  · rw [reply_exchange_listComputers cors s]
    · exact h.listComputers_link hengine hwell horder
    · exact hmethod
    · exact hpath
  · intro hitems
    rw [SearchRequest.linkColumns_eq_of_isListItem hwell hitems]
    exact ⟨rfl, rfl⟩

end List

/-! ### Names that do not come back -/

/-- Where some key is no item of a list, some query is read as a request whose columns do not come back. -/
theorem exists_request_losing_columns {extensions : Extensions} {key : String}
    (hkey : (Catalog.extended extensions).contains key = true) (hlost : ¬Text.IsListItem key) (defaults : Defaults) :
    ∃ query request,
      (QueryString.decode query).request (.extended extensions) defaults .lenient = .ok request ∧
        request.customSearch = false ∧ request.linkColumns (.extended extensions) defaults ≠ request.columns := by
  have hbuiltin : ∀ name, (∃ entry ∈ Catalog.builtinLabels, entry.1 = name) →
      (Catalog.extended extensions).contains name = true := by
    intro name hname
    exact (Catalog.contains_extended extensions name).mpr (Or.inr (Or.inr hname))
  have hname : (Catalog.extended extensions).contains "Name" = true := hbuiltin "Name" (by decide)
  have hsystem : (Catalog.extended extensions).contains "OsName" = true := hbuiltin "OsName" (by decide)
  have hcriterion : ∀ key, (Catalog.extended extensions).contains key = true →
      ∃ raw value, (SearchRequest.without key raw value).WellFormed (.extended extensions) := by
    intro key hknown
    rw [Catalog.contains_eq_isSome] at hknown
    obtain ⟨t, ht⟩ := Option.isSome_iff_exists.mp hknown
    obtain ⟨raw, value, hread⟩ := SearchRequest.exists_read t
    exact ⟨raw, value, SearchRequest.wellFormed_without ht hread⟩
  obtain ⟨raw, value, hfirst⟩ := hcriterion key hkey
  obtain ⟨raw', value', hsecond⟩ := hcriterion "OsName" hsystem
  -- Each of the two criteria reveals its column, and only the second one comes back from the link in its place.
  have hkeys : key ≠ "" ∧ "OsName" ≠ "" := ⟨ne_empty_of_contains_extended hkey, by decide⟩
  have hlisted : Text.IsListItem "OsName" := by decide
  have hother : "OsName" ≠ "Name" := by decide
  exact ⟨_, _, SearchRequest.request_namedPairs hname ⟨hfirst, hkeys.1⟩ ⟨hsecond, hkeys.2⟩ defaults, rfl,
    SearchRequest.linkColumns_named_ne hlost hlisted hsystem ⟨rfl, rfl⟩ hother defaults⟩

/-! ### Any state -/

/-- In a state, the link of every list of computers leads to the same list. -/
def LinksReproduce (cors : Cors) (s : State) : Prop :=
  ∀ (r : HttpRequest) (body : Json) (link : String), r.method = .get → r.path = listPath →
    (cors.exchange s r).outcome.reply = .ofJson body → body.get? "query" = some (.string link) →
      (cors.exchange s { r with query := link }).outcome.reply = .ofJson body

theorem Consistent.linksReproduce_iff {records : List InventoryRecord} {defaults : Defaults} {s : State}
    (h : Consistent records defaults s) {extensions : Extensions} (hcatalog : s.catalog = .extended extensions)
    (cors : Cors) : LinksReproduce cors s ↔ extensions.PlainNames := by
  obtain ⟨view, hengine, _⟩ := h.view_typed
  rw [← isListItem_of_contains_extended_iff]
  constructor
  · intro hlinks key hkey
    by_contra hlost
    obtain ⟨query, request, hrequest, hcustom, hcolumns⟩ := exists_request_losing_columns hkey hlost defaults
    obtain ⟨_, _, _, _, _, _, hplain⟩ := Params.request_eq_ok_iff.mp hrequest
    rw [← hcatalog] at hrequest hcolumns
    have hlist : (s.listComputers query).reply = .ofJson (listToJson request (searchView view request)) := by
      refine (h.listComputers_eq_ofJson_iff hengine).mpr ⟨request, ?_, rfl⟩
      rw [← hplain, hcustom]
      exact hrequest
    have hwell : request.WellFormed s.catalog := SearchRequest.wellFormed_of_request h.defaults_valid hrequest
    have horder : request.order ≠ "" := ne_empty_of_contains_extended (hcatalog ▸ hwell.order_known)
    have hsame := hlinks ⟨.get, listPath, query, none, "", none⟩ _ _ rfl rfl
      ((reply_exchange_listComputers cors s rfl rfl).trans hlist) (get?_query_listToJson _ _)
    rw [reply_exchange_listComputers cors s rfl rfl, h.listComputers_link hengine hwell horder] at hsame
    have hbody := Option.some.inj (congrArg Reply.body hsame)
    have hshown := congrArg (fun body => body.get? "columns") hbody
    simp only [get?_columns_listToJson, Option.some.injEq] at hshown
    exact hcolumns (Json.ofTexts_injective hshown)
  · intro hkeys r body link hmethod hpath hreply hquery
    obtain ⟨request, rows, link', columns, rows', rfl, hlink, hanswer, _, hknown, hsame⟩ :=
      h.follow_link hengine hcatalog cors hmethod hpath hreply
    obtain ⟨rfl, rfl⟩ := hsame fun column hcolumn => hkeys column (hcatalog ▸ hknown column hcolumn)
    cases hlink.symm.trans hquery
    exact hanswer

/-- Links reproduce their lists exactly when every name of the extensions is plain: no comma is in it, and no
blank at its end. In any case a link leads to a list, of the same computers in the same order, that differs at
most in its columns. -/
theorem links_reproduce_iff_plain_names {files : DataFiles} {defaults : Defaults} {d : DataSet}
    (hread : DataSet.read files defaults = .ok d) (cors : Cors) (requests : List HttpRequest) :
    let s := (d.state defaults).after cors requests
    (∃ extensions, s.catalog = .extended extensions) ∧
      (∀ extensions, s.catalog = .extended extensions → (LinksReproduce cors s ↔ extensions.PlainNames)) ∧
      ∀ (r : HttpRequest) (body : Json), r.method = .get → r.path = listPath →
        (cors.exchange s r).outcome.reply = .ofJson body →
          ∃ request rows link columns rows', body = listToJson request rows ∧
            body.get? "query" = some (.string link) ∧
            (cors.exchange s { r with query := link }).outcome.reply =
              .ofJson (listToJson { request with columns := columns } rows') ∧
            rows'.map (·.id) = rows.map (·.id) ∧
            ((∀ column ∈ request.columns, Text.IsListItem column) → columns = request.columns ∧ rows' = rows) := by
  intro s
  obtain ⟨records, _, h⟩ := consistent_after hread cors requests
  obtain ⟨view, hengine, _⟩ := h.view_typed
  have hextended := exists_extended_after d defaults cors requests
  refine ⟨hextended, fun extensions hcatalog => h.linksReproduce_iff hcatalog cors, ?_⟩
  intro r body hmethod hpath hreply
  obtain ⟨extensions, hcatalog⟩ := hextended
  obtain ⟨request, rows, link, columns, rows', hbody, hlink, hanswer, hids, _, hsame⟩ :=
    h.follow_link hengine hcatalog cors hmethod hpath hreply
  exact ⟨request, rows, link, columns, rows', hbody, hlink, hanswer, hids, hsame⟩

/-- A user-defined field whose name has a comma. -/
def commaNames : Extensions := ⟨[⟨"A,B", .text⟩], []⟩

theorem not_plainNames_commaNames : ¬commaNames.PlainNames := by
  intro h
  have hplain : IsPlainName "A,B" := h.1 ⟨"A,B", .text⟩ List.mem_cons_self
  revert hplain
  decide

/-- A catalog file with this name and nothing else. -/
def commaFiles : DataFiles := ⟨some ⟨"catalog.json", some "[[[\"A,B\", \"text\"]]]"⟩, none, none⟩

theorem links_differ_for_commaNames :
    DataSet.read commaFiles .builtin = .ok ⟨commaNames, .empty, []⟩ ∧
      ¬LinksReproduce ⟨.any, false, 0⟩ ((DataSet.mk commaNames .empty []).state .builtin) := by
  have hcatalog : readConfigured commaFiles.catalog Extensions.rule .empty = .ok commaNames := by
    have hsome : (readConfigured commaFiles.catalog Extensions.rule .empty).toOption = some commaNames := by
      decide +kernel
    cases hresult : readConfigured commaFiles.catalog Extensions.rule .empty with
    | ok extensions =>
        rw [hresult] at hsome
        exact congrArg Except.ok (Option.some.inj hsome)
    | error error =>
        rw [hresult] at hsome
        cases hsome
  have hdefaults : Defaults.builtin.check (.extended commaNames) = .ok () := by decide +kernel
  have hread : DataSet.read commaFiles .builtin = .ok ⟨commaNames, .empty, []⟩ := by
    refine bind_eq_ok_iff.mpr ⟨commaNames, hcatalog, bind_eq_ok_iff.mpr ⟨(), ?_, rfl⟩⟩
    rw [hdefaults]
    rfl
  obtain ⟨_, hiff, _⟩ := links_reproduce_iff_plain_names hread ⟨.any, false, 0⟩ []
  exact ⟨hread, mt (hiff commaNames rfl).mp not_plainNames_commaNames⟩

end InventorySearch.Service
