import InventorySearch.Json.Basic

/-! What the service reports while it works: log events and spans, and what it counts. -/
namespace InventorySearch.Service

/-- How much an event matters. -/
inductive LogLevel where
  | error
  | warn
  | info
  | debug
  | trace
  deriving DecidableEq

namespace LogLevel

def name : LogLevel → String
  | error => "ERROR"
  | warn => "WARN"
  | info => "INFO"
  | debug => "DEBUG"
  | trace => "TRACE"

/-- The place of a level; the more it matters the lower it is. -/
def rank : LogLevel → Nat
  | error => 1
  | warn => 2
  | info => 3
  | debug => 4
  | trace => 5

end LogLevel

/-- Something that happened, in a part of the service that `target` names. -/
structure LogEvent where
  target : String
  level : LogLevel
  message : String
  fields : List (String × Json)

/-- How a list search ended. -/
inductive SearchOutcome where
  | found
  | backToForm
  | backToList
  deriving DecidableEq

/-- The label of an outcome in the counter of searches. -/
def SearchOutcome.label : SearchOutcome → String
  | found => "ok"
  | backToForm => "redirect_form"
  | backToList => "redirect_list"

/-- A thing reported: an event, a span that opens, or a count. -/
inductive Report where
  | event (e : LogEvent)
  | span (name : String) (fields : List (String × Json))
  | search (outcome : SearchOutcome)
  | request (method path : String) (status : Nat)
  | catalogSize (filters : Nat)

namespace LogEvent

/-- Tells whether an event has a field; each has its message. -/
def hasField (e : LogEvent) (name : String) : Bool :=
  name == "message" || e.fields.any fun field => field.1 == name

/-- The fields of an event with its message among them. -/
def allFields (e : LogEvent) : Json := .ofMembers (("message", .string e.message) :: e.fields)

end LogEvent

end InventorySearch.Service
