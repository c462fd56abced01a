import InventorySearch.Proofs.Service.Consistency

/-! What a request leaves alone. A request that is refused leaves everything alone, whatever it asked for, and
one that is carried out changes nothing outside its scope: one group, or the catalog with the typed view. The
raw records are in no scope. -/

namespace InventorySearch.Service

/-- The second state is the same as the first outside a scope. -/
def State.SameOutside (s s' : State) : Scope → Prop
  | .nothing => s' = s
  | .catalog =>
      s' = { s with catalog := s'.catalog, engine := s'.engine } ∧
        ∀ i, s.engine = .inventory i → ∃ view, s'.engine = .inventory ⟨i.records, view⟩
  | .group name =>
      s' = { s with groups := s'.groups } ∧
        ∀ other, other ≠ name → s'.groups.get? other = s.groups.get? other

namespace State

variable {s : State} {scope : Scope} {o : Outcome}

theorem sameOutside_self (s : State) (scope : Scope) : s.SameOutside s scope := by
  cases scope with
  | nothing => exact rfl
  | catalog => exact ⟨rfl, fun i hengine => ⟨i.view, hengine⟩⟩
  | group name => exact ⟨rfl, fun _ _ => rfl⟩

namespace SameOutside

variable {s' : State}

theorem of_nothing_or_eq {narrow : Scope} (h : s.SameOutside s' narrow) (hscope : narrow = .nothing ∨ narrow = scope) :
    s.SameOutside s' scope := by
  rcases hscope with rfl | rfl
  · cases h
    exact s.sameOutside_self scope
  · exact h

theorem catalog_eq (h : s.SameOutside s' scope) (hscope : scope ≠ .catalog) :
    s'.catalog = s.catalog ∧ s'.engine = s.engine := by
  cases scope with
  | nothing =>
      cases h
      exact ⟨rfl, rfl⟩
  | catalog => exact absurd rfl hscope
  | group name =>
      rw [h.1]
      exact ⟨rfl, rfl⟩

theorem get?_eq {name : String} (h : s.SameOutside s' scope) (hscope : scope ≠ .group name) :
    s'.groups.get? name = s.groups.get? name := by
  cases scope with
  | nothing => rw [h]
  | catalog => rw [h.1]
  | group changed =>
      apply h.2
      rintro rfl
      exact hscope rfl

/-- Behind the segment of a path at most one group changes, and none if the segment cannot be decoded. -/
theorem of_segment {segment : String} (h : s.SameOutside s' (.ofSegment segment)) :
    s' = { s with groups := s'.groups } ∧
      ∀ other, (∀ raw, Route.decodeSegment? segment = some raw → other ≠ Text.trim raw) →
        s'.groups.get? other = s.groups.get? other := by
  unfold Scope.ofSegment at h
  cases hraw : Route.decodeSegment? segment with
  | none =>
      simp only [hraw] at h
      cases h
      exact ⟨rfl, fun _ _ => rfl⟩
  | some raw =>
      simp only [hraw] at h
      exact ⟨h.1, fun other hother => h.2 other (hother raw rfl)⟩

end SameOutside

/-- A search leaves an inventory as it is. -/
theorem asked_eq_self {i : Inventory} (hengine : s.engine = .inventory i) (request : SearchRequest) :
    { s with engine := (s.engine.resolve request).1 } = s := by
  rw [hengine, Engine.resolve_inventory, ← hengine]

theorem Effect.eq_of_not_success {i : Inventory} (hengine : s.engine = .inventory i) (h : s.Effect scope o)
    (hrefused : ¬o.reply.Success) : o.state = s := by
  cases h with
  | kept h => exact h
  | asked request h => exact h.trans (asked_eq_self hengine request)
  | rebuilt hsuccess => exact absurd hsuccess hrefused
  | stored hsuccess => exact absurd hsuccess hrefused
  | removed hsuccess => exact absurd hsuccess hrefused
  | forced hsuccess => exact absurd hsuccess hrefused

theorem Effect.sameOutside {i : Inventory} (hengine : s.engine = .inventory i) (h : s.Effect scope o) :
    s.SameOutside o.state scope := by
  cases h with
  | kept h =>
      rw [h]
      exact s.sameOutside_self scope
  | asked request h =>
      rw [h, asked_eq_self hengine]
      exact s.sameOutside_self scope
  | rebuilt _ extensions engine _ _ _ hretyped h =>
      rw [h]
      refine ⟨rfl, fun i hi => ?_⟩
      rw [hi] at hretyped
      obtain ⟨view, heq, _⟩ := retype_inventory_eq_ok_iff.mp hretyped
      exact ⟨view, heq⟩
  | stored _ name description query _ h =>
      rw [h]
      refine ⟨rfl, fun other hother => ?_⟩
      rw [GroupStore.get?_upsert, if_neg (Ne.symm hother)]
  | removed _ name g _ h =>
      rw [h]
      refine ⟨rfl, fun other hother => ?_⟩
      rw [GroupStore.get?_remove, if_neg (Ne.symm hother)]
  | forced _ name g id membership _ h =>
      rw [h]
      refine ⟨rfl, fun other hother => ?_⟩
      rw [GroupStore.get?_setMembership, if_neg (Ne.symm hother)]

end State

namespace HttpRequest

variable {r : HttpRequest}

/-- Only a request to put or to delete something has a scope. -/
theorem scope_of_reading (hput : r.method ≠ .put) (hdelete : r.method ≠ .delete) : r.scope = .nothing := by
  unfold scope
  cases Route.ofPath? r.path with
  | none => rfl
  | some route =>
      cases hmethod : r.method with
      | put => exact absurd hmethod hput
      | delete => exact absurd hmethod hdelete
      | _ => cases route <;> rfl

theorem scope_of_group {segment : String}
    (hroute : Route.ofPath? r.path = some (.group segment) ∨
      ∃ id, Route.ofPath? r.path = some (.groupMember segment id)) :
    r.scope = .nothing ∨ r.scope = .ofSegment segment := by
  unfold scope
  rcases hroute with hroute | ⟨id, hroute⟩
  · cases r.method <;> simp [hroute, Route.scope]
  · cases r.method <;> simp [hroute, Route.scope]

theorem scope_of_extensions (hroute : Route.ofPath? r.path = some .extensions) :
    r.scope = .nothing ∨ r.scope = .catalog := by
  unfold scope
  cases r.method <;> simp [hroute, Route.scope]

end HttpRequest

/-! ### Requests -/

section Consistent

variable {records : List InventoryRecord} {defaults : Defaults}

theorem Consistent.eq_of_not_success (h : Consistent records defaults s) {cors : Cors} {r : HttpRequest}
    (hrefused : ¬(cors.exchange s r).outcome.reply.Success) : (cors.exchange s r).outcome.state = s := by
  obtain ⟨view, hengine, _⟩ := h.view_typed
  exact (s.effect_exchange cors r).eq_of_not_success hengine hrefused

theorem Consistent.sameOutside (h : Consistent records defaults s) (cors : Cors) (r : HttpRequest) :
    s.SameOutside (cors.exchange s r).outcome.state r.scope := by
  obtain ⟨view, hengine, _⟩ := h.view_typed
  exact (s.effect_exchange cors r).sameOutside hengine

/-- A group that is in the scope of none of the requests is the same after them. -/
theorem Consistent.get?_after (h : Consistent records defaults s) (cors : Cors) {requests : List HttpRequest}
    {name : String} (hothers : ∀ r ∈ requests, r.scope ≠ .group name) :
    (s.after cors requests).groups.get? name = s.groups.get? name := by
  refine h.after_induction (P := fun s' => s'.groups.get? name = s.groups.get? name) rfl ?_
  intro s' hs' r hr hsame
  rw [(hs'.sameOutside cors r).get?_eq (hothers r hr), hsame]

/-- In the states in which they are answered, none of the requests lets another catalog take over. -/
def KeepsCatalog (cors : Cors) (s : State) : List HttpRequest → Prop
  | [] => True
  | r :: requests =>
      (r.scope = .catalog → ¬(cors.exchange s r).outcome.reply.Success) ∧
        KeepsCatalog cors (cors.exchange s r).outcome.state requests

theorem Consistent.catalog_after (h : Consistent records defaults s) {cors : Cors} {requests : List HttpRequest}
    (hkeeps : KeepsCatalog cors s requests) :
    (s.after cors requests).catalog = s.catalog ∧ (s.after cors requests).engine = s.engine := by
  induction requests generalizing s with
  | nil => exact ⟨rfl, rfl⟩
  | cons r requests ih =>
      obtain ⟨hfirst, hrest⟩ := hkeeps
      have hnext := ih (h.step (s.step_exchange cors r)) hrest
      have hsame : (cors.exchange s r).outcome.state.catalog = s.catalog ∧
          (cors.exchange s r).outcome.state.engine = s.engine := by
        by_cases hscope : r.scope = .catalog
        · rw [h.eq_of_not_success (hfirst hscope)]
          exact ⟨rfl, rfl⟩
        · exact (h.sameOutside cors r).catalog_eq hscope
      exact ⟨hnext.1.trans hsame.1, hnext.2.trans hsame.2⟩

end Consistent

/-- A refused request changes nothing, one that only reads changes nothing, one about a group changes at most
what is stored under its trimmed name, and one about the extensions at most the catalog and the typed view. -/
theorem request_changes_only_its_part {files : DataFiles} {defaults : Defaults} {d : DataSet}
    (hread : DataSet.read files defaults = .ok d) (cors : Cors) (requests : List HttpRequest) (r : HttpRequest) :
    let s := (d.state defaults).after cors requests
    let o := (cors.exchange s r).outcome
    (¬o.reply.Success → o.state = s) ∧
      (r.method ≠ .put → r.method ≠ .delete → o.state = s) ∧
      (∀ segment,
        (Route.ofPath? r.path = some (.group segment) ∨
            ∃ id, Route.ofPath? r.path = some (.groupMember segment id)) →
          o.state = { s with groups := o.state.groups } ∧
            ∀ other, (∀ raw, Route.decodeSegment? segment = some raw → other ≠ Text.trim raw) →
              o.state.groups.get? other = s.groups.get? other) ∧
      (Route.ofPath? r.path = some .extensions →
        o.state = { s with catalog := o.state.catalog, engine := o.state.engine }) ∧
      ∃ records view view', readConfigured files.inventory (.list InventoryRecord.rule) [] = .ok records ∧
        s.engine = .inventory ⟨records, view⟩ ∧ o.state.engine = .inventory ⟨records, view'⟩ := by
  intro s o
  obtain ⟨records, hrecords, h⟩ := consistent_after hread cors requests
  have hsame : s.SameOutside o.state r.scope := h.sameOutside cors r
  refine ⟨h.eq_of_not_success, ?_, ?_, ?_, ?_⟩
  · intro hput hdelete
    rw [HttpRequest.scope_of_reading hput hdelete] at hsame
    exact hsame
  · intro segment hroute
    exact (hsame.of_nothing_or_eq (HttpRequest.scope_of_group hroute)).of_segment
  · intro hroute
    exact (hsame.of_nothing_or_eq (HttpRequest.scope_of_extensions hroute)).1
  · obtain ⟨view, hengine, _⟩ := h.view_typed
    obtain ⟨view', hengine', _⟩ := (h.step (s.step_exchange cors r)).view_typed
    exact ⟨records, view, view', hrecords, hengine, hengine'⟩

/-- A request that makes the price a whole number. -/
def wholePrice : HttpRequest :=
  ⟨.put, "/api/v1/catalog/extensions", "", some "application/json", "[[[\"Price\", \"integer\"]]]", none⟩

theorem wholePrice_changes_nothing :
    DataSet.read priceFiles .builtin = .ok priceData ∧
      let s := priceData.state .builtin
      let o := (Cors.exchange ⟨.any, false, 0⟩ s wholePrice).outcome
      o.reply.status = 400 ∧ o.state = s := by
  have hrefused : ¬(Cors.exchange ⟨.any, false, 0⟩ (priceData.state .builtin) wholePrice).outcome.reply.Success := by
    decide +kernel
  refine ⟨read_priceFiles, by decide +kernel, ?_⟩
  exact (request_changes_only_its_part read_priceFiles ⟨.any, false, 0⟩ [] wholePrice).1 hrefused

end InventorySearch.Service
