import InventorySearch.Proofs.Service.CatalogChange
import InventorySearch.Proofs.Service.Serving

/-! What a request can do to the state, by what its path and its method allow it to change. Whatever is asked
for, in whatever order the path, the method, the names and the body are looked at, only five changes are
possible, and each of the writing ones stands behind its checks and a reply of success. -/

namespace InventorySearch.Service

/-- The reply says that the request was carried out. -/
def Reply.Success (r : Reply) : Prop := 200 ≤ r.status ∧ r.status < 300

instance (r : Reply) : Decidable r.Success := inferInstanceAs (Decidable (_ ∧ _))

theorem Reply.success_ofJson (body : Json) : (ofJson body).Success := by
  show 200 ≤ 200 ∧ 200 < 300
  decide

/-! ### What may be changed -/

/-- The part of the state that a request may change. -/
inductive Scope where
  | nothing
  /-- The catalog and the typed view of the inventory. -/
  | catalog
  /-- The group of one name. -/
  | group (name : String)

/-- The scope of the group that a segment of a path names. -/
def Scope.ofSegment (segment : String) : Scope :=
  match Route.decodeSegment? segment with
  | some name => .group (Text.trim name)
  | none => .nothing

/-- The scope of a method on a route. -/
def Route.scope (route : Route) (method : Method) : Scope :=
  match route, method with
  | .group segment, .put => .ofSegment segment
  | .group segment, .delete => .ofSegment segment
  | .groupMember segment _, .put => .ofSegment segment
  | .extensions, .put => .catalog
  | _, _ => .nothing

def HttpRequest.scope (r : HttpRequest) : Scope :=
  match Route.ofPath? r.path with
  | some route => route.scope r.method
  | none => .nothing

/-- The outcomes of a request with a given scope. -/
inductive State.Effect (s : State) : Scope → Outcome → Prop
  /-- Nothing changes. -/
  | kept {scope : Scope} {o : Outcome} (h : o.state = s) : Effect s scope o
  /-- The engine has answered a search. -/
  | asked {scope : Scope} {o : Outcome} (request : SearchRequest)
      (h : o.state = { s with engine := (s.engine.resolve request).1 }) : Effect s scope o
  /-- Other extensions have taken over. -/
  | rebuilt {o : Outcome} (hsuccess : o.reply.Success) (extensions : Extensions) (engine : Engine)
      (hnames : checkNames extensions = .ok ()) (hdefaults : s.defaults.check (.extended extensions) = .ok ())
      (hgroups : invalidatedGroups (.extended extensions) s.defaults s.groups = [])
      (hengine : s.engine.retype (.extended extensions) = .ok engine)
      (h : o.state = { s with catalog := .extended extensions, engine := engine }) : Effect s .catalog o
  /-- A group has been stored, with a query that can be read or with none. -/
  | stored {o : Outcome} (hsuccess : o.reply.Success) (name : String) (description query : Option String)
      (hquery : ∀ text, query = some text → ∃ request, savedRequest s.catalog s.defaults text = .ok request)
      (h : o.state = { s with groups := s.groups.upsert name description query }) : Effect s (.group name) o
  /-- A group has been removed. -/
  | removed {o : Outcome} (hsuccess : o.reply.Success) (name : String) (g : Group)
      (hget : s.groups.get? name = some g) (h : o.state = { s with groups := s.groups.remove name }) :
      Effect s (.group name) o
  /-- A membership has been set in a group. -/
  | forced {o : Outcome} (hsuccess : o.reply.Success) (name : String) (g : Group) (id : Int64)
      (membership : Membership) (hget : s.groups.get? name = some g)
      (h : o.state = { s with groups := s.groups.setMembership name id membership }) : Effect s (.group name) o

/-! ### Names -/

theorem groupName_eq_ok_iff {raw name : String} :
    groupName raw = .ok name ↔ name = Text.trim raw ∧ name ≠ "" := by
  unfold groupName
  simp only
  split_ifs with hempty
  · simp only [String.isEmpty_iff] at hempty
    simp only [false_iff, not_and, not_not]
    exact fun h => h.trans hempty
  · simp only [String.isEmpty_iff] at hempty
    simp only [Except.ok.injEq]
    exact ⟨fun h => ⟨h.symm, h ▸ hempty⟩, fun h => h.1.symm⟩

theorem readMember_eq_ok {segment idText name : String} {id : Int64}
    (h : readMember segment idText = .ok (name, id)) :
    ∃ raw, Route.decodeSegment? segment = some raw ∧ groupName raw = .ok name := by
  obtain ⟨raw, hraw, h⟩ := bind_eq_ok_iff.mp h
  obtain ⟨idRaw, _, h⟩ := bind_eq_ok_iff.mp h
  refine ⟨raw, ?_, ?_⟩
  · beta_reduce at hraw
    split at hraw
    next hsegment =>
      cases hraw
      exact hsegment
    · cases hraw
  · split at h
    · cases h
    · obtain ⟨stored, hstored, heq⟩ := map_eq_ok_iff.mp h
      cases heq
      exact hstored

/-! ### Searches -/

theorem Engine.resolve_inventory (i : Inventory) (request : SearchRequest) :
    (inventory i).resolve request = (inventory i, .ok (i.search request)) :=
  rfl

/-- Evaluating the members of a group does no more to the engine than a search. -/
theorem Evaluator.engine_members (evaluator : Evaluator) (catalog : Catalog) (defaults : Defaults)
    (engine : Engine) (g : Group) :
    (evaluator.members catalog defaults engine g).engine = engine ∨
      ∃ request, (evaluator.members catalog defaults engine g).engine = (engine.resolve request).1 := by
  unfold members
  split
  · exact Or.inl rfl
  · cases evaluator with
    | fixed answers => exact Or.inl rfl
    | savedSearch =>
        simp only [run, runSavedSearch]
        split
        · exact Or.inl rfl
        next request _ =>
          refine Or.inr ⟨{ request with distinct := true }, ?_⟩
          split
          next hresolve => rw [hresolve]
          next hresolve => rw [hresolve]

namespace State

variable (s : State)

theorem effect_listComputers (scope : Scope) (query : String) : s.Effect scope (s.listComputers query) := by
  unfold listComputers
  simp only
  split
  · refine .kept ?_
    unfold sendBack
    split <;> rfl
  next request _ =>
    refine .asked request ?_
    split
    next hresolve => rw [hresolve]
    next hresolve => rw [hresolve]

theorem effect_groupMembers (scope : Scope) (rawName : String) : s.Effect scope (s.groupMembers rawName) := by
  unfold groupMembers
  split
  · exact .kept rfl
  · split
    · exact .kept rfl
    next g _ =>
      simp only
      rcases s.evaluator.engine_members s.catalog s.defaults s.engine g with heq | ⟨request, heq⟩
      · refine .kept ?_
        split <;> simp only [heq]
      · refine .asked request ?_
        split <;> simp only [heq]

/-! ### The catalog -/

theorem effect_replaceExtensions (e : Extensions) : s.Effect .catalog (s.replaceExtensions e) := by
  have hrebuild := s.rebuild_replaceExtensions e
  generalize s.replaceExtensions e = o at hrebuild
  cases hrebuild with
  | published engine hnames hdefaults hgroups hengine =>
      exact .rebuilt (Reply.success_ofJson _) e engine hnames hdefaults hgroups hengine rfl
  | _ => exact .kept rfl

/-! ### Groups -/

/-- A query that has been checked can be read. -/
theorem savedRequest_of_checkedQuery {input : GroupInput} {query : Option String}
    (h : s.checkedQuery input = .ok query) {text : String} (htext : query = some text) :
    ∃ request, savedRequest s.catalog s.defaults text = .ok request := by
  unfold checkedQuery at h
  simp only at h
  split at h
  · cases h
    cases htext
  · obtain ⟨request, hrequest, rfl⟩ := map_eq_ok_iff.mp h
    cases htext
    exact ⟨request, hrequest⟩

theorem effect_upsertGroup (rawName : String) (input : GroupInput) :
    s.Effect (.group (Text.trim rawName)) (s.upsertGroup rawName input) := by
  unfold upsertGroup
  split
  · exact .kept rfl
  next name hname =>
    obtain ⟨rfl, _⟩ := groupName_eq_ok_iff.mp hname
    split
    · exact .kept rfl
    next hquery => exact .stored (Reply.success_ofJson _) _ _ _ (fun _ => s.savedRequest_of_checkedQuery hquery) rfl

theorem effect_deleteGroup (rawName : String) :
    s.Effect (.group (Text.trim rawName)) (s.deleteGroup rawName) := by
  unfold deleteGroup
  split
  · exact .kept rfl
  next name hname =>
    obtain ⟨rfl, _⟩ := groupName_eq_ok_iff.mp hname
    split
    · exact .kept rfl
    next g hget =>
      have hsuccess : (Reply.bare 204).Success := by decide
      exact .removed hsuccess _ g hget rfl

theorem effect_setMembership (name : String) (id : Int64) (membership : Membership) :
    s.Effect (.group name) (s.setMembership name id membership) := by
  unfold setMembership
  split
  · exact .kept rfl
  next g hget => exact .forced (Reply.success_ofJson _) name g id membership hget rfl

/-! ### Requests -/

theorem effect_withName {scope : Scope} (segment : String) {next : String → Outcome}
    (h : ∀ name, Route.decodeSegment? segment = some name → s.Effect scope (next name)) :
    s.Effect scope (s.withName segment next) := by
  unfold withName
  split
  next name hname => exact h name hname
  · exact .kept rfl

theorem effect_withGroup (segment : String) {next : String → Outcome}
    (h : ∀ name, s.Effect (.group (Text.trim name)) (next name)) :
    s.Effect (.ofSegment segment) (s.withName segment next) := by
  refine s.effect_withName segment fun name hname => ?_
  simp only [Scope.ofSegment, hname]
  exact h name

theorem effect_withBody {scope : Scope} {α : Type} (r : HttpRequest) (rule : Json.Rule α) {next : α → Outcome}
    (h : ∀ input, s.Effect scope (next input)) : s.Effect scope (s.withBody r rule next) := by
  unfold withBody
  split
  · exact h _
  · exact .kept rfl

theorem effect_putMember (segment id : String) (r : HttpRequest) :
    s.Effect (.ofSegment segment) (s.putMember segment id r) := by
  unfold putMember
  split
  · exact .kept rfl
  next name id hmember =>
    obtain ⟨raw, hraw, hname⟩ := readMember_eq_ok hmember
    obtain ⟨rfl, _⟩ := groupName_eq_ok_iff.mp hname
    simp only [Scope.ofSegment, hraw]
    exact s.effect_withBody r _ fun membership => s.effect_setMembership _ _ membership

theorem effect_serveRoute (route : Route) (r : HttpRequest) :
    s.Effect (route.scope r.method) (s.serveRoute route r) := by
  -- Only what writes has a scope that matters, and it is served by the method that was asked for.
  have hput : r.method.served = .put → r.method = .put := by cases r.method <;> simp [Method.served]
  have hdelete : r.method.served = .delete → r.method = .delete := by cases r.method <;> simp [Method.served]
  unfold serveRoute
  split
  · exact s.effect_listComputers _ _
  · exact .kept rfl
  · exact .kept rfl
  next segment hmethod =>
    rw [hput hmethod]
    exact s.effect_withGroup segment fun name => s.effect_withBody r _ fun input => s.effect_upsertGroup name input
  next segment hmethod =>
    rw [hdelete hmethod]
    exact s.effect_withGroup segment s.effect_deleteGroup
  · exact s.effect_withName _ fun name _ => s.effect_groupMembers _ name
  next segment id hmethod =>
    rw [hput hmethod]
    exact s.effect_putMember segment id r
  · exact .kept rfl
  next hmethod =>
    rw [hput hmethod]
    exact s.effect_withBody r _ s.effect_replaceExtensions
  · exact .kept rfl
  · exact .kept rfl
  · exact .kept rfl
  · exact .kept rfl

theorem effect_serve (r : HttpRequest) : s.Effect r.scope (s.serve r) := by
  unfold serve HttpRequest.scope
  cases Route.ofPath? r.path with
  | some route => exact s.effect_serveRoute route r
  | none => exact .kept rfl

end State

variable {s : State}

/-- The effect of a request lies in the state behind it and in the status of the reply. -/
theorem State.Effect.of_same {scope : Scope} {o o' : Outcome} (h : s.Effect scope o) (hstate : o'.state = o.state)
    (hstatus : o'.reply.status = o.reply.status) : s.Effect scope o' := by
  have hreply : o.reply.Success → o'.reply.Success := by
    unfold Reply.Success
    rw [hstatus]
    exact id
  cases h with
  | kept h => exact .kept (hstate.trans h)
  | asked request h => exact .asked request (hstate.trans h)
  | rebuilt hsuccess e engine hnames hdefaults hgroups hengine h =>
      exact .rebuilt (hreply hsuccess) e engine hnames hdefaults hgroups hengine (hstate.trans h)
  | stored hsuccess name description query hquery h =>
      exact .stored (hreply hsuccess) name description query hquery (hstate.trans h)
  | removed hsuccess name g hget h => exact .removed (hreply hsuccess) name g hget (hstate.trans h)
  | forced hsuccess name g id membership hget h =>
      exact .forced (hreply hsuccess) name g id membership hget (hstate.trans h)

/-- Every request, accepted or refused, changes the state in one of these ways. -/
theorem State.effect_exchange (s : State) (cors : Cors) (r : HttpRequest) :
    s.Effect r.scope (cors.exchange s r).outcome := by
  unfold Cors.exchange
  split
  · exact .kept rfl
  · exact (s.effect_serve r).of_same rfl (s.status_handle r)

end InventorySearch.Service
