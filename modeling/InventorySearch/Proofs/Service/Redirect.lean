import InventorySearch.Proofs.Request.Modes
import InventorySearch.Proofs.Service.Links

/-! Where a list of computers that cannot be read leads. The list and the search form read the same query, and
for what the form has submitted they read it in the same modes: the form tells what is wrong exactly where the
list sends back to it. Every other list is only refused for its criteria, and leads to the list of all
computers, which has none. -/

namespace InventorySearch.Service

/-- The reply to getting a target. -/
def Cors.get (cors : Cors) (s : State) (target : String) : Reply :=
  (cors.exchange s (.ofTarget .get target)).outcome.reply

/-- What the body of a reply has under a key. -/
def Reply.field? (r : Reply) (key : String) : Option Json := r.body.bind fun body => body.get? key

/-- The keys under which a list and a request tell what is searched for. -/
def searchKeys : List String := ["criteria", "columns", "order", "direction", "distinct", "jump_to"]

/-! ### Targets -/

theorem fromPath_of_slash {target : List Char} (h : target.head? = some '/') :
    HttpRequest.fromPath target = target := by
  cases target with
  | nil => cases h
  | cons c rest =>
      cases h
      rfl

theorem splitTarget_query {path query : String} (hslash : path.toList.head? = some '/')
    (hmark : '?' ∉ path.toList) (hpath : '#' ∉ path.toList) (hquery : '#' ∉ query.toList) :
    HttpRequest.splitTarget (path ++ "?" ++ query) = (path, query) := by
  have hchars : (path ++ "?" ++ query).toList = path.toList ++ '?' :: query.toList := by
    simp
  have hfirst : (path.toList ++ '?' :: query.toList).head? = some '/' := by
    rw [List.head?_append, hslash, Option.some_or]
  have hplain : (path.toList ++ '?' :: query.toList).takeWhile (· ≠ '#') = path.toList ++ '?' :: query.toList := by
    refine List.takeWhile_eq_self_iff.mpr fun c hc => decide_eq_true ?_
    rintro rfl
    rcases List.mem_append.mp hc with hc | hc
    · exact hpath hc
    · exact hquery ((List.mem_cons.mp hc).resolve_left (by decide))
  rw [HttpRequest.splitTarget, hchars, fromPath_of_slash hfirst, hplain, Text.cutFirst_append hmark]
  simp

section Get

variable (cors : Cors) (s : State) {query : String}

theorem get_listPath (hquery : '#' ∉ query.toList) :
    cors.get s (listPath ++ "?" ++ query) = (s.listComputers query).reply := by
  have hsplit : HttpRequest.splitTarget (listPath ++ "?" ++ query) = (listPath, query) :=
    splitTarget_query (by decide) (by decide) (by decide) hquery
  rw [Cors.get, HttpRequest.ofTarget, hsplit]
  exact reply_exchange_listComputers cors s rfl rfl

theorem get_listPath_empty : cors.get s listPath = (s.listComputers "").reply := by
  have htarget : HttpRequest.ofTarget .get listPath = ⟨.get, listPath, "", none, "", none⟩ := by decide
  rw [Cors.get, htarget]
  exact reply_exchange_listComputers cors s rfl rfl

theorem get_formPath (hquery : '#' ∉ query.toList) :
    cors.get s (formPath ++ "?" ++ query) = .ofJson (formToJson s.catalog (QueryString.decode query)
      ((QueryString.decode query).request s.catalog s.defaults (.listView true))) := by
  have hsplit : HttpRequest.splitTarget (formPath ++ "?" ++ query) = (formPath, query) :=
    splitTarget_query (by decide) (by decide) (by decide) hquery
  have hroute : Route.ofPath? formPath = some .searchForm := by decide
  rw [Cors.get, HttpRequest.ofTarget, hsplit, s.reply_exchange (by simp) (by simp), s.serve_searchForm rfl hroute]
  rfl

end Get

/-! ### What the form and the list tell -/

theorem get?_formToJson_of_ok (catalog : Catalog) (params : Params) (request : SearchRequest) :
    (formToJson catalog params (.ok request)).get? "errors" = some (.array []) ∧
      (formToJson catalog params (.ok request)).get? "request" = some request.toJson :=
  ⟨Json.get?_ofMembers _ _, Json.get?_ofMembers _ _⟩

theorem get?_formToJson_of_error (catalog : Catalog) (params : Params) (e : SearchError) :
    (formToJson catalog params (.error e)).get? "errors" = some (.array [(FieldError.ofSearch e).toJson]) ∧
      (formToJson catalog params (.error e)).get? "request" = none :=
  ⟨Json.get?_ofMembers _ _, Json.get?_ofMembers _ _⟩

theorem get?_searchKeys (request : SearchRequest) (rows : List Row) :
    ∀ key ∈ searchKeys, ∃ value, request.toJson.get? key = some value ∧
      (listToJson request rows).get? key = some value := by
  simp only [searchKeys, List.forall_mem_cons, List.not_mem_nil, false_imp_iff, implies_true, and_true]
  refine ⟨?_, ?_, ?_, ?_, ?_, ?_⟩ <;> exact ⟨_, Json.get?_ofMembers _ _, Json.get?_ofMembers _ _⟩

/-! ### Lists -/

section List

variable {records : List InventoryRecord} {defaults : Defaults} {s : State} {query : String}

/-- Where the client of a list that cannot be read is sent. -/
def wayBack (query : String) (customSearch : Bool) : String :=
  if customSearch then formPath ++ "?" ++ query else listPath

theorem reply_sendBack (s : State) (query : String) (customSearch : Bool) (e : SearchError) :
    (s.sendBack query customSearch e).reply = .seeOther (wayBack query customSearch) := by
  unfold State.sendBack wayBack
  cases customSearch <;> rfl

/-- A list is shown when its query is read as a request, and else its client is sent away. -/
theorem Consistent.listComputers_cases (h : Consistent records defaults s) {customSearch : Bool}
    (hcustom : (QueryString.decode query).contains "customSearch" = customSearch) :
    (∃ request rows, (QueryString.decode query).request s.catalog s.defaults (.listView customSearch) = .ok request ∧
        (s.listComputers query).reply = .ofJson (listToJson request rows)) ∨
      ∃ e, (QueryString.decode query).request s.catalog s.defaults (.listView customSearch) = .error e ∧
        (s.listComputers query).reply = .seeOther (wayBack query customSearch) := by
  obtain ⟨view, hengine, _⟩ := h.view_typed
  simp only [State.listComputers, hcustom, hengine]
  cases (QueryString.decode query).request s.catalog s.defaults (.listView customSearch) with
  | ok request => exact Or.inl ⟨request, searchView view request, rfl, rfl⟩
  | error e => exact Or.inr ⟨e, rfl, reply_sendBack s query customSearch e⟩

theorem Consistent.status_listPath (h : Consistent records defaults s) (cors : Cors) :
    (cors.get s listPath).status = 200 := by
  have hcustom : (QueryString.decode "").contains "customSearch" = false := rfl
  rcases h.listComputers_cases hcustom with ⟨request, rows, _, hreply⟩ | ⟨e, hrequest, _⟩
  · rw [get_listPath_empty, hreply]
    rfl
  · -- Without parameters there are no criteria that could be wrong.
    have hcriteria := (Params.request_lenient_eq_error_iff _ _ _).mp hrequest
    cases hcriteria

/-- What the form has submitted is shown exactly when the form finds nothing wrong with it, and then the form
reads it as the request of the list. Else it comes back to the form, which tells the one thing that is wrong. -/
theorem Consistent.submitted_list (h : Consistent records defaults s) (cors : Cors) (hquery : '#' ∉ query.toList)
    (hcustom : (QueryString.decode query).contains "customSearch" = true) :
    let list := cors.get s (listPath ++ "?" ++ query)
    let form := cors.get s (formPath ++ "?" ++ query)
    (list.status = 200 ∧ list.location = none ∧ form.field? "errors" = some (.array []) ∧
        ∃ request, form.field? "request" = some request ∧
          ∀ key ∈ searchKeys, ∃ value, request.get? key = some value ∧ list.field? key = some value) ∨
      (list.status = 303 ∧ list.location = some (formPath ++ "?" ++ query) ∧ form.status = 200 ∧
        form.field? "request" = none ∧
        ∃ e, (QueryString.decode query).request s.catalog s.defaults (.listView true) = .error e ∧
          form.field? "errors" = some (.array [(FieldError.ofSearch e).toJson])) := by
  intro list form
  have hlist : list = (s.listComputers query).reply := get_listPath cors s hquery
  have hform : form = _ := get_formPath cors s hquery
  rcases h.listComputers_cases hcustom with ⟨request, rows, hrequest, hreply⟩ | ⟨e, hrequest, hreply⟩
  · rw [hrequest] at hform
    obtain ⟨herrors, hshown⟩ := get?_formToJson_of_ok s.catalog (QueryString.decode query) request
    rw [hlist, hform, hreply]
    exact Or.inl ⟨rfl, rfl, herrors, request.toJson, hshown, get?_searchKeys request rows⟩
  · rw [hrequest] at hform
    obtain ⟨herrors, hshown⟩ := get?_formToJson_of_error s.catalog (QueryString.decode query) e
    rw [hlist, hform, hreply]
    exact Or.inr ⟨rfl, rfl, rfl, hshown, e, hrequest, herrors⟩

theorem Consistent.plain_list (h : Consistent records defaults s) (cors : Cors) (hquery : '#' ∉ query.toList)
    (hcustom : (QueryString.decode query).contains "customSearch" = false) :
    let list := cors.get s (listPath ++ "?" ++ query)
    (list.status = 200 ∧ list.location = none ∧ ¬∃ e, (QueryString.decode query).criteria s.catalog = .error e) ∨
      (list.status = 303 ∧ list.location = some listPath ∧
        ∃ e, (QueryString.decode query).criteria s.catalog = .error e) := by
  intro list
  have hlist : list = (s.listComputers query).reply := get_listPath cors s hquery
  rcases h.listComputers_cases hcustom with ⟨request, rows, hrequest, hreply⟩ | ⟨e, hrequest, hreply⟩
  · rw [hlist, hreply]
    refine Or.inl ⟨rfl, rfl, ?_⟩
    rintro ⟨e, hcriteria⟩
    have hrefused := (Params.request_lenient_eq_error_iff _ _ s.defaults).mpr hcriteria
    cases hrequest.symm.trans hrefused
  · rw [hlist, hreply]
    exact Or.inr ⟨rfl, rfl, e, (Params.request_lenient_eq_error_iff _ _ _).mp hrequest⟩

end List

/-- A list is shown or sends the client away. What the form has submitted is shown exactly when the form
finds nothing wrong with it, and else comes back to the form, which tells the one thing that is wrong. Any
other list is sent away exactly when its criteria cannot be read, to the list of all computers. Nobody is
sent away twice, whatever is asked for in the meantime. -/
theorem list_shown_or_sent_away_once {files : DataFiles} {defaults : Defaults} {d : DataSet}
    (hread : DataSet.read files defaults = .ok d) (cors : Cors) (requests : List HttpRequest) {query : String}
    (hquery : '#' ∉ query.toList) :
    let s := (d.state defaults).after cors requests
    let list := cors.get s (listPath ++ "?" ++ query)
    let form := cors.get s (formPath ++ "?" ++ query)
    let params := QueryString.decode query
    (list.status = 200 ∨ list.status = 303) ∧
      (params.contains "customSearch" = true →
        (list.status = 200 ↔ form.field? "errors" = some (.array [])) ∧
          (list.status = 200 → ∃ request, form.field? "request" = some request ∧
            ∀ key ∈ searchKeys, ∃ value, request.get? key = some value ∧ list.field? key = some value) ∧
          (list.status = 303 → list.location = some (formPath ++ "?" ++ query) ∧ form.status = 200 ∧
            form.field? "request" = none ∧
            ∃ e, params.request s.catalog s.defaults (.listView true) = .error e ∧
              form.field? "errors" = some (.array [(FieldError.ofSearch e).toJson]))) ∧
      (params.contains "customSearch" = false →
        (list.status = 303 ↔ ∃ e, params.criteria s.catalog = .error e) ∧
          (list.status = 303 → list.location = some listPath)) ∧
      (cors.get s listPath).status = 200 ∧
      ∀ location, list.location = some location →
        ∀ later, (cors.get (s.after cors later) location).status = 200 := by
  intro s list form params
  obtain ⟨records, _, h⟩ := consistent_after hread cors requests
  have hall : ∀ later, (cors.get (s.after cors later) listPath).status = 200 :=
    fun later => (h.after cors later).status_listPath cors
  have hform : ∀ later, (cors.get (s.after cors later) (formPath ++ "?" ++ query)).status = 200 := by
    intro later
    rw [get_formPath cors _ hquery]
    rfl
  have hstatus : list.status = 200 ∨ list.status = 303 := by
    cases hcustom : params.contains "customSearch" with
    | true => exact (h.submitted_list cors hquery hcustom).imp And.left And.left
    | false => exact (h.plain_list cors hquery hcustom).imp And.left And.left
  have honce : ∀ location, list.location = some location →
      ∀ later, (cors.get (s.after cors later) location).status = 200 := by
    intro location hto
    cases hcustom : params.contains "customSearch" with
    | true =>
        rcases h.submitted_list cors hquery hcustom with ⟨_, hstay, _⟩ | ⟨_, hback, _⟩
        · cases hstay.symm.trans hto
        · cases hback.symm.trans hto
          exact hform
    | false =>
        rcases h.plain_list cors hquery hcustom with ⟨_, hstay, _⟩ | ⟨_, hback, _⟩
        · cases hstay.symm.trans hto
        · cases hback.symm.trans hto
          exact hall
  refine ⟨hstatus, fun hcustom => ?submitted, fun hcustom => ?plain, hall [], honce⟩
  case submitted =>
    rcases h.submitted_list cors hquery hcustom with ⟨hshown, _, hnothing, hsame⟩ | ⟨hsent, hback⟩
    · have hstays : ¬list.status = 303 := fun hsent => by cases hshown.symm.trans hsent
      exact ⟨iff_of_true hshown hnothing, fun _ => hsame, fun hsent => absurd hsent hstays⟩
    · have hleaves : ¬list.status = 200 := fun hshown => by cases hsent.symm.trans hshown
      have hfault : ¬form.field? "errors" = some (.array []) := by
        obtain ⟨_, _, _, e, _, herrors⟩ := hback
        intro hnothing
        cases herrors.symm.trans hnothing
      exact ⟨iff_of_false hleaves hfault, fun hshown => absurd hshown hleaves, fun _ => hback⟩
  case plain =>
    rcases h.plain_list cors hquery hcustom with ⟨hshown, _, hcriteria⟩ | ⟨hsent, hback, hcriteria⟩
    · have hstays : ¬list.status = 303 := fun hsent => by cases hshown.symm.trans hsent
      exact ⟨iff_of_false hstays hcriteria, fun hsent => absurd hsent hstays⟩
    · exact ⟨iff_of_true hsent hcriteria, fun _ => hback⟩

/-- What the form submits for a price, with a percent sign that encodes nothing. -/
def priceQuery : String := "customSearch&filter=UserDefinedInfo.Price&search=%5"

theorem priceQuery_sent_away_once :
    let cors : Cors := ⟨.any, false, 0⟩
    let s := (priceData.state .builtin).after cors [dropPrice]
    let form := cors.get s (formPath ++ "?" ++ priceQuery)
    DataSet.read priceFiles .builtin = .ok priceData ∧ '#' ∉ priceQuery.toList ∧
      (cors.get s (listPath ++ "?" ++ priceQuery)).status = 303 ∧
      (cors.get s (listPath ++ "?" ++ priceQuery)).location = some (formPath ++ "?" ++ priceQuery) ∧
      form.status = 200 ∧ form.field? "request" = none ∧
      form.field? "errors" =
        some (.array [FieldError.toJson ⟨"filter", "Unknown filter: " ++ "UserDefinedInfo.Price"⟩]) ∧
      ∀ later, (cors.get (s.after cors later) (formPath ++ "?" ++ priceQuery)).status = 200 := by
  intro cors s form
  have hquery : '#' ∉ priceQuery.toList := by decide
  have hcustom : (QueryString.decode priceQuery).contains "customSearch" = true := by decide +kernel
  have hsent : (cors.get s (listPath ++ "?" ++ priceQuery)).status = 303 := by decide +kernel
  have herror : (QueryString.decode priceQuery).request s.catalog s.defaults (.listView true) =
      .error (.unknownFilter "filter" "UserDefinedInfo.Price") := by
    decide +kernel
  obtain ⟨_, hsubmitted, _, _, honce⟩ := list_shown_or_sent_away_once read_priceFiles cors [dropPrice] hquery
  obtain ⟨_, _, hback⟩ := hsubmitted hcustom
  obtain ⟨hlocation, hform, hnone, e, he, herrors⟩ := hback hsent
  cases he.symm.trans herror
  exact ⟨read_priceFiles, hquery, hsent, hlocation, hform, hnone, herrors, honce _ hlocation⟩

end InventorySearch.Service
