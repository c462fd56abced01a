import InventorySearch.Proofs.Service.Effect

/-! What a request can do to the state, whatever it asks for: only five changes are possible, and each of them
only behind its checks. -/

namespace InventorySearch.Service

/-- The states that a request can lead to. -/
inductive State.Step (s : State) : State → Prop
  | same : Step s s
  | asked (request : SearchRequest) : Step s { s with engine := (s.engine.resolve request).1 }
  | rebuilt (extensions : Extensions) (engine : Engine) (hnames : checkNames extensions = .ok ())
      (hdefaults : s.defaults.check (.extended extensions) = .ok ())
      (hgroups : invalidatedGroups (.extended extensions) s.defaults s.groups = [])
      (hengine : s.engine.retype (.extended extensions) = .ok engine) :
      Step s { s with catalog := .extended extensions, engine := engine }
  | stored (name : String) (description query : Option String)
      (hquery : ∀ text, query = some text → ∃ request, savedRequest s.catalog s.defaults text = .ok request) :
      Step s { s with groups := s.groups.upsert name description query }
  | removed (name : String) (g : Group) (hget : s.groups.get? name = some g) :
      Step s { s with groups := s.groups.remove name }
  | forced (name : String) (g : Group) (id : Int64) (membership : Membership)
      (hget : s.groups.get? name = some g) :
      Step s { s with groups := s.groups.setMembership name id membership }

variable {s : State}

theorem State.Effect.step {scope : Scope} {o : Outcome} (h : s.Effect scope o) : s.Step o.state := by
  cases h with
  | kept h =>
      rw [h]
      exact .same
  | asked request h =>
      rw [h]
      exact .asked request
  | rebuilt _ extensions engine hnames hdefaults hgroups hengine h =>
      rw [h]
      exact .rebuilt extensions engine hnames hdefaults hgroups hengine
  | stored _ name description query hquery h =>
      rw [h]
      exact .stored name description query hquery
  | removed _ name g hget h =>
      rw [h]
      exact .removed name g hget
  | forced _ name g id membership hget h =>
      rw [h]
      exact .forced name g id membership hget

/-- Every request, accepted or refused, changes the state in one of these ways. -/
theorem State.step_exchange (s : State) (cors : Cors) (r : HttpRequest) :
    s.Step (cors.exchange s r).outcome.state :=
  (s.effect_exchange cors r).step

end InventorySearch.Service
