import InventorySearch.Group.Store
import InventorySearch.Service.Engine

/-! The state of the service, and what a request leads to: a reply, the state after it, and what is
reported on the way. -/
namespace InventorySearch.Service

/-- What the service keeps between requests. -/
structure State where
  catalog : Catalog
  engine : Engine
  groups : GroupStore
  defaults : Defaults
  evaluator : Evaluator

/-- A reply; the body is missing where it is not JSON. -/
structure Reply where
  status : Nat
  location : Option String
  body : Option Json

namespace Reply

def ofJson (body : Json) : Reply := ⟨200, none, some body⟩

/-- A reply of a status alone. -/
def bare (status : Nat) : Reply := ⟨status, none, none⟩

/-- Sends the client to another address, which it is to get. -/
def seeOther (location : String) : Reply := ⟨303, some location, none⟩

def ofError (e : ApiError) : Reply := ⟨e.code.status, none, some e.toJson⟩

end Reply

/-- What a request leads to. -/
structure Outcome where
  reply : Reply
  state : State
  reports : List Report

namespace State

/-- Replies without a change of the state. -/
def answer (s : State) (reply : Reply) (reports : List Report) : Outcome := ⟨reply, s, reports⟩

def refuse (s : State) (e : ApiError) : Outcome := s.answer (.ofError e) []

/-- Fails a request for a cause within the service. -/
def fail (s : State) (cause : Cause) : Outcome :=
  s.answer (.ofError cause.toApiError) cause.reports

end State

end InventorySearch.Service
