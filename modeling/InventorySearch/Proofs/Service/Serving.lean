import InventorySearch.Proofs.Results
import InventorySearch.Service.Router

/-! Which handler answers a request. Cross-origin rules and reports stand around it, and neither changes the
state that it leaves, nor the reply unless only its head was asked for. A handler that needs a body is only
reached with one that says it is JSON, keeps to the limit and obeys the rule. -/

namespace InventorySearch.Service

namespace HttpRequest

variable {r : HttpRequest} {mediaType : String} {α : Type} {rule : Json.Rule α}

/-- A body is read exactly when it is said to be JSON, keeps to the limit and obeys the rule. -/
theorem readBody_eq_ok_iff {input : α} :
    r.readBody rule = .ok input ↔
      r.mediaType.any MediaType.isJson = true ∧ Text.byteLength r.body.toList ≤ bodyLimit ∧
        rule.readStart r.body = .ok input := by
  unfold readBody
  split
  next hmedia => simp [hmedia]
  next mediaType hmedia =>
    rw [hmedia, Option.any_some]
    cases MediaType.isJson mediaType with
    | false => simp
    | true =>
        simp only [Bool.not_true, Bool.false_eq_true, if_false, true_and]
        split_ifs with hlong
        · exact iff_of_false nofun fun h => Nat.not_le_of_lt hlong h.1
        · rw [mapError_eq_ok_iff]
          exact (and_iff_right (Nat.le_of_not_lt hlong)).symm

theorem readBody_of_oversized (hmedia : r.mediaType = some mediaType) (hjson : MediaType.isJson mediaType = true)
    (hlong : bodyLimit < Text.byteLength r.body.toList) : r.readBody rule = .error 413 := by
  simp only [readBody, hmedia, hjson, Bool.not_true, Bool.false_eq_true, if_false, if_pos hlong]

end HttpRequest

namespace State

variable (s : State) {cors : Cors} {r : HttpRequest}

theorem status_handle (r : HttpRequest) : (s.handle r).reply.status = (s.serve r).reply.status := by
  simp only [handle]
  split <;> rfl

theorem state_exchange (hmethod : r.method ≠ .options) : (cors.exchange s r).outcome.state = (s.serve r).state := by
  rw [Cors.exchange, if_neg hmethod]
  rfl

theorem reply_exchange (hmethod : r.method ≠ .options) (hwhole : r.method ≠ .head) :
    (cors.exchange s r).outcome.reply = (s.serve r).reply := by
  rw [Cors.exchange, if_neg hmethod, handle]
  simp only [if_neg hwhole]

/-! ### Handlers -/

theorem serve_listComputers (hmethod : r.method = .get) (hroute : Route.ofPath? r.path = some .computers) :
    s.serve r = s.listComputers r.query := by
  simp only [serve, hroute, serveRoute, hmethod, Method.served]

theorem serve_searchForm (hmethod : r.method = .get) (hroute : Route.ofPath? r.path = some .searchForm) :
    s.serve r = s.searchForm r.query := by
  simp only [serve, hroute, serveRoute, hmethod, Method.served]

theorem serve_groupMembers {segment rawName : String} (hmethod : r.method = .get)
    (hroute : Route.ofPath? r.path = some (.groupMembers segment))
    (hsegment : Route.decodeSegment? segment = some rawName) : s.serve r = s.groupMembers rawName := by
  simp only [serve, hroute, serveRoute, hmethod, Method.served, withName, hsegment]

theorem serve_deleteGroup {segment rawName : String} (hmethod : r.method = .delete)
    (hroute : Route.ofPath? r.path = some (.group segment)) (hsegment : Route.decodeSegment? segment = some rawName) :
    s.serve r = s.deleteGroup rawName := by
  simp only [serve, hroute, serveRoute, hmethod, Method.served, withName, hsegment]

theorem serve_replaceExtensions {e : Extensions} (hmethod : r.method = .put)
    (hroute : Route.ofPath? r.path = some .extensions) (hbody : r.readBody Extensions.rule = .ok e) :
    s.serve r = s.replaceExtensions e := by
  simp only [serve, hroute, serveRoute, hmethod, Method.served, withBody, hbody]

/-- Extensions in too long a body are refused before they are read, whatever they are, and nothing changes. -/
theorem exchange_of_oversized_extensions {mediaType : String} (hmethod : r.method = .put)
    (hroute : Route.ofPath? r.path = some .extensions) (hmedia : r.mediaType = some mediaType)
    (hjson : MediaType.isJson mediaType = true)
    (hlong : HttpRequest.bodyLimit < Text.byteLength r.body.toList) :
    (cors.exchange s r).outcome.reply = .bare 413 ∧ (cors.exchange s r).outcome.state = s := by
  have hserve : s.serve r = s.answer (.bare 413) [] := by
    simp only [serve, hroute, serveRoute, hmethod, Method.served, withBody,
      HttpRequest.readBody_of_oversized hmedia hjson hlong]
  rw [s.reply_exchange (by simp [hmethod]) (by simp [hmethod]), s.state_exchange (by simp [hmethod]), hserve]
  exact ⟨rfl, rfl⟩

end State

end InventorySearch.Service
