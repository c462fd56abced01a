import InventorySearch.SearchError
import InventorySearch.Service.Log

/-!
Error replies: a code, which decides the status, a message and perhaps details. The causes inside
the service become such a reply; of a failed query engine the reply does not give the reason, which
is logged instead.
-/
namespace InventorySearch.Service

/-- What kind of error a reply reports. -/
inductive ErrorCode where
  | validationFailed
  | invalidInput
  | missingField
  | unknownFilter
  | groupNotFound
  | internalError
  | resolverError
  | serviceUnavailable
  deriving DecidableEq

namespace ErrorCode

instance : Coded ErrorCode where
  all := [.validationFailed, .invalidInput, .missingField, .unknownFilter, .groupNotFound,
    .internalError, .resolverError, .serviceUnavailable]
  code
    | .validationFailed => "VALIDATION_FAILED"
    | .invalidInput => "INVALID_INPUT"
    | .missingField => "MISSING_FIELD"
    | .unknownFilter => "UNKNOWN_FILTER"
    | .groupNotFound => "GROUP_NOT_FOUND"
    | .internalError => "INTERNAL_ERROR"
    | .resolverError => "RESOLVER_ERROR"
    | .serviceUnavailable => "SERVICE_UNAVAILABLE"

def name : ErrorCode → String
  | validationFailed => "ValidationFailed"
  | invalidInput => "InvalidInput"
  | missingField => "MissingField"
  | unknownFilter => "UnknownFilter"
  | groupNotFound => "GroupNotFound"
  | internalError => "InternalError"
  | resolverError => "ResolverError"
  | serviceUnavailable => "ServiceUnavailable"

def status : ErrorCode → Nat
  | validationFailed => 400
  | invalidInput => 400
  | missingField => 400
  | unknownFilter => 400
  | groupNotFound => 404
  | serviceUnavailable => 503
  | internalError => 500
  | resolverError => 500

/-- The message of a code where nothing more is known. -/
def defaultMessage : ErrorCode → String
  | validationFailed => "Request validation failed"
  | invalidInput => "Invalid input data"
  | missingField => "Required field is missing"
  | unknownFilter => "Unknown filter"
  | groupNotFound => "Group not found"
  | internalError => "Internal server error"
  | resolverError => "Search could not be resolved"
  | serviceUnavailable => "Service temporarily unavailable"

end ErrorCode

/-- An error as it is replied. -/
structure ApiError where
  code : ErrorCode
  message : String
  details : Option Json

namespace ApiError

/-- An error without details. -/
def new (code : ErrorCode) (message : String) : ApiError := ⟨code, message, none⟩

def ofCode (code : ErrorCode) : ApiError := new code code.defaultMessage

def withDetails (e : ApiError) (details : Json) : ApiError := { e with details := some details }

/-- An error that belongs to a field of the request. -/
def withField (e : ApiError) (field : String) : ApiError :=
  e.withDetails (.ofMembers [("field", .string field)])

/-- A request that cannot be carried out. -/
def validationFailed (message : String) : ApiError := new .validationFailed message

def invalidInput (message : String) : ApiError := new .invalidInput message

def missingField (field : String) : ApiError :=
  new .missingField ("Required field '" ++ field ++ "' is missing")

def groupNotFound (name : String) : ApiError :=
  new .groupNotFound ("Group " ++ name ++ " not found")

/-- A failure of the service itself. -/
def internalError (message : String) : ApiError := new .internalError message

/-- A part of the service that cannot be used. -/
def serviceUnavailable (message : String) : ApiError := new .serviceUnavailable message

/-- The code and the message on one line. -/
def display (e : ApiError) : String := e.code.name ++ ": " ++ e.message

def toJson (e : ApiError) : Json :=
  .ofMembers <|
    [("code", .string (InventorySearch.code e.code)), ("message", .string e.message)] ++
      (e.details.map fun details => ("details", details)).toList

/-- The reply to a search that is refused. -/
def ofSearch (e : SearchError) : ApiError :=
  let errorCode : ErrorCode :=
    match e with
    | .unknownFilter _ _ => .unknownFilter
    | _ => .validationFailed
  match e.param? with
  | some param => (new errorCode e.message).withField param
  | none => new errorCode e.message

/-- The reply to a configuration that is refused. -/
def ofConfig (e : ConfigError) : ApiError := invalidInput e.message

end ApiError

/-- Why the service could not do what it was asked. -/
inductive Cause where
  | search (e : SearchError)
  | config (e : ConfigError)
  | engine (reason : String)
  | locked
  deriving DecidableEq

namespace Cause

def message : Cause → String
  | search e => "Search error: " ++ e.message
  | config e => "Config error: " ++ e.message
  | engine reason => "Query resolver failed: " ++ reason
  | locked => "Filter catalog lock poisoned"

/-- The reply to a cause. -/
def toApiError : Cause → ApiError
  | search e => .ofSearch e
  | config e => .ofConfig e
  | engine _ => .ofCode .resolverError
  | locked => .serviceUnavailable "Filter catalog is unavailable"

/-- What is logged of a cause that the reply does not tell in full. -/
def reports : Cause → List Report
  | engine reason =>
    [.event ⟨"assetdesk_api::error", .error, "Query resolver failed", [("reason", .string reason)]⟩]
  | locked => [.event ⟨"assetdesk_api::error", .error, "Filter catalog lock poisoned", []⟩]
  | _ => []

end Cause

/-- A validation message for one parameter of the search form. -/
structure FieldError where
  field : String
  message : String
  deriving DecidableEq

/-- The validation message for an error; one that has no parameter is about the whole query. -/
def FieldError.ofSearch (e : SearchError) : FieldError := ⟨e.param?.getD "query", e.message⟩

def FieldError.toJson (e : FieldError) : Json :=
  .ofMembers [("field", .string e.field), ("message", .string e.message)]

end InventorySearch.Service
