import InventorySearch.Proofs.Group.Members
import InventorySearch.Proofs.Inventory.Presentation
import InventorySearch.Proofs.Json
import InventorySearch.Proofs.Request.Scan
import InventorySearch.Proofs.Service.Consistency

/-! The members of a group as the service tells them: the computers that are always members, and those that the
criteria of the saved query find unless they are never members. Searching with one row for each computer finds
the same computers, and what the query says about the presentation plays no part. -/

namespace InventorySearch.Service

section Query

variable {catalog : Catalog} {defaults : Defaults} {view : List TypedRecord} {g : Group}

/-- The request of a group is the one that its query is read as. -/
theorem exists_request_iff {query : String} {request : SearchRequest} (hquery : g.query = some query)
    (hrequest : savedRequest catalog defaults query = .ok request) {P : SearchRequest → Prop} :
    (∃ query request, g.query = some query ∧ savedRequest catalog defaults query = .ok request ∧ P request) ↔
      P request := by
  constructor
  · rintro ⟨query', request', hquery', hrequest', hP⟩
    cases hquery.symm.trans hquery'
    cases hrequest.symm.trans hrequest'
    exact hP
  · exact fun hP => ⟨query, request, hquery, hrequest, hP⟩

theorem mem_members_iff {found : IdSet}
    (hfound : g.query = none ∧ found = ∅ ∨
      ∃ query request, g.query = some query ∧ savedRequest catalog defaults query = .ok request ∧
        found = .ofList ((searchView view { request with distinct := true }).map (·.id))) {id : Int64} :
    id ∈ (resolveMembers found g.overrides).toList ↔
      g.membership id = .always ∨ g.membership id ≠ .never ∧
        ∃ query request, g.query = some query ∧ savedRequest catalog defaults query = .ok request ∧
          Finds view { request with distinct := false } id := by
  rw [Std.TreeSet.mem_toList, Group.mem_resolveMembers_iff]
  rcases hfound with ⟨hnone, rfl⟩ | ⟨query, request, hquery, hrequest, rfl⟩
  · simp [hnone]
  · have hsame : ({ request with distinct := true } : SearchRequest).criteria =
        ({ request with distinct := false } : SearchRequest).criteria := rfl
    rw [exists_request_iff hquery hrequest, Std.TreeSet.mem_ofList, List.contains_iff_mem,
      mem_map_id_searchView_iff, finds_congr hsame]

end Query

/-- Queries with the same parameters of criteria have the same criteria. -/
theorem criteria_eq_of_sameCriteria {catalog : Catalog} {defaults : Defaults} {query query' : String}
    {request request' : SearchRequest} (hread : savedRequest catalog defaults query = .ok request)
    (hread' : savedRequest catalog defaults query' = .ok request')
    (hsame : (QueryString.decode query).SameCriteria (QueryString.decode query')) :
    request.criteria = request'.criteria := by
  have hcriteria := (Params.request_eq_ok_iff.mp hread).1
  have hcriteria' := (Params.request_eq_ok_iff.mp hread').1
  rw [hsame.criteria_eq, hcriteria'] at hcriteria
  exact (Except.ok.inj hcriteria).symm

/-- The members of a stored group, in ascending order: the computers set to be members, and of the others those
not set to be none that satisfy the criteria of the query. Any query with the same parameters of criteria finds
the same ones, computers that are not in the inventory are members only by hand, and so are all members of a
group without a query. -/
theorem members_exact {files : DataFiles} {defaults : Defaults} {d : DataSet}
    (hread : DataSet.read files defaults = .ok d) (cors : Cors) (requests : List HttpRequest) :
    let s := (d.state defaults).after cors requests
    ∃ records view, readConfigured files.inventory (.list InventoryRecord.rule) [] = .ok records ∧
      s.engine = .inventory ⟨records, view⟩ ∧
      List.Forall₂ (fun record r => r.id = record.id ∧ r.values = record.valuesUnder s.catalog) records view ∧
      ∀ (r : HttpRequest) (segment rawName name : String) (g : Group), r.method = .get →
        Route.ofPath? r.path = some (.groupMembers segment) → Route.decodeSegment? segment = some rawName →
          groupName rawName = .ok name → s.groups.get? name = some g →
            ∃ body ids, (cors.exchange s r).outcome.reply = .ofJson body ∧
              body.get? "name" = some (.string name) ∧ body.get? "members" = some (idsToJson ids) ∧
              ids.Pairwise (· < ·) ∧
              (∀ id, id ∈ ids ↔ g.membership id = .always ∨ g.membership id ≠ .never ∧
                ∃ query request, g.query = some query ∧ savedRequest s.catalog defaults query = .ok request ∧
                  Finds view { request with distinct := false } id) ∧
              (∀ query query' request', g.query = some query →
                savedRequest s.catalog defaults query' = .ok request' →
                (QueryString.decode query).SameCriteria (QueryString.decode query') →
                  ∀ id, id ∈ ids ↔
                    g.membership id = .always ∨ g.membership id ≠ .never ∧ Finds view request' id) ∧
              (∀ id, (∀ record ∈ records, record.id ≠ id) → (id ∈ ids ↔ g.membership id = .always)) ∧
              (g.query = none → ∀ id, id ∈ ids ↔ g.membership id = .always) := by
  intro s
  obtain ⟨records, hrecords, h⟩ := consistent_after hread cors requests
  obtain ⟨view, hengine, hview⟩ := h.view_typed
  refine ⟨records, view, hrecords, hengine, forall₂_of_typeRecords hview, ?_⟩
  intro r segment rawName name g hmethod hroute hsegment hname hget
  obtain ⟨found, hreply, hfound⟩ := h.groupMembers_reply hengine hname hget
  have hiff : ∀ id, id ∈ (resolveMembers found g.overrides).toList ↔ _ := fun id => mem_members_iff hfound
  have hown : g.name = name := named_groups_after d defaults cors requests name g hget
  rw [reply_exchange_groupMembers cors s hmethod hroute hsegment, hreply, ← hown]
  refine ⟨_, (resolveMembers found g.overrides).toList, rfl, Json.get?_ofMembers _ _, Json.get?_ofMembers _ _,
    pairwise_toList_idSet _, hiff, ?_, ?_, ?_⟩
  · intro query query' request' hquery hrequest' hsame id
    obtain ⟨request, hrequest⟩ := h.queries_readable name g query hget hquery
    have hcriteria : request.criteria = request'.criteria := criteria_eq_of_sameCriteria hrequest hrequest' hsame
    have hfinds : Finds view { request with distinct := false } id ↔ Finds view request' id := by
      apply finds_congr
      exact hcriteria
    rw [hiff, exists_request_iff hquery hrequest, hfinds]
  · intro id habsent
    rw [hiff]
    refine or_iff_left ?_
    rintro ⟨_, query, request, _, _, r, hr, rfl, _⟩
    obtain ⟨record, hrecord, htyped⟩ := exists_of_mem_mapM hview hr
    exact habsent record hrecord (id_of_typeRecord htyped).symm
  · intro hnone id
    rw [hiff]
    refine or_iff_left ?_
    rintro ⟨_, query, request, hquery, _⟩
    rw [hnone] at hquery
    cases hquery

theorem linux_members_after_dropPrice :
    DataSet.read priceFiles .builtin = .ok priceData ∧
      let cors : Cors := ⟨.any, false, 0⟩
      let s := (priceData.state .builtin).after cors [dropPrice]
      ∃ g body ids, s.groups.get? "Linux" = some g ∧ (cors.exchange s askMembers).outcome.reply = .ofJson body ∧
        body.get? "members" = some (idsToJson ids) ∧ (idsToJson ids).toText = "[1]" ∧
        ∀ id, id ∈ ids → g.membership id = .always ∨ g.membership id ≠ .never := by
  obtain ⟨g, hget⟩ := exists_linux_after_dropPrice
  obtain ⟨_, _, _, _, _, hmembers⟩ := members_exact read_priceFiles ⟨.any, false, 0⟩ [dropPrice]
  obtain ⟨body, ids, hreply, _, hids, _, hiff, _⟩ :=
    hmembers askMembers "Linux" "Linux" "Linux" g rfl ofPath?_askMembers decodeSegment?_linux rfl hget
  have htext : (((Cors.exchange ⟨.any, false, 0⟩ ((priceData.state .builtin).after ⟨.any, false, 0⟩ [dropPrice])
      askMembers).outcome.reply.body.bind fun body => body.get? "members").map Json.toText) = some "[1]" := by
    decide +kernel
  rw [hreply] at htext
  refine ⟨read_priceFiles, g, body, ids, hget, hreply, hids, ?_, fun id hid => ?_⟩
  · simpa [Reply.ofJson, hids] using htext
  · exact ((hiff id).mp hid).imp_right And.left

end InventorySearch.Service
