import InventorySearch.Service.State
import InventorySearch.Text.Blank

/-! The requests about groups: listing them, storing and removing one, showing its members and
setting a membership by hand. -/
namespace InventorySearch.Service

/-- The name under which a group is stored: trimmed, and not blank. -/
def groupName (raw : String) : Except ApiError String :=
  let name := Text.trim raw
  if name.isEmpty then .error (.missingField "name") else .ok name

/-- What a client gives to store a group. -/
structure GroupInput where
  description : Option String
  query : String
  deriving DecidableEq

open Json in
def GroupInput.rule : Rule GroupInput :=
  Fields.rule <| GroupInput.mk
    <$> .withDefault "description" (.nullable .text) none
    <*> .withDefault "query" .text ""

open Json in
def membershipRule : Rule Membership := Fields.rule (.required "membership" .code)

def groupEvent (message : String) (fields : List (String × Json)) : Report :=
  .event ⟨"assetdesk_api::routes::group", .info, message, fields⟩

namespace State

def listGroups (s : State) : Outcome :=
  let groups := s.groups.toList
  s.answer
    (.ofJson (.ofMembers
      [("groups", .array (groups.map Group.summary)), ("total", .ofNat groups.length)])) []

/-- The query that is stored for an input: trimmed, none if blank, and readable as a saved search
under the current catalog. -/
def checkedQuery (s : State) (input : GroupInput) : Except SearchError (Option String) :=
  let query := Text.trim input.query
  if query.isEmpty then .ok none
  else (savedRequest s.catalog s.defaults query).map fun _ => some query

/-- Stores a group whose query has been checked. -/
def storeGroup (s : State) (name : String) (description query : Option String) : Outcome :=
  let group := s.groups.replaced name description query
  ⟨.ofJson group.toJson, { s with groups := s.groups.upsert name description query },
    [groupEvent "Group stored"
      [("group", .string group.name), ("dynamic", .bool query.isSome)]]⟩

/-- Creates or replaces a group; a blank description is none. -/
def upsertGroup (s : State) (rawName : String) (input : GroupInput) : Outcome :=
  match groupName rawName with
  | .error e => s.refuse e
  | .ok name =>
    match s.checkedQuery input with
    | .error e => s.refuse (.ofSearch e)
    | .ok query =>
      s.storeGroup name (input.description.filter fun text => !Text.isBlankText text) query

def deleteGroup (s : State) (rawName : String) : Outcome :=
  match groupName rawName with
  | .error e => s.refuse e
  | .ok name =>
    match s.groups.get? name with
    | none => s.refuse (.groupNotFound name)
    | some _ => ⟨.bare 204, { s with groups := s.groups.remove name }, []⟩

def groupMembers (s : State) (rawName : String) : Outcome :=
  match groupName rawName with
  | .error e => s.refuse e
  | .ok name =>
    match s.groups.get? name with
    | none => s.refuse (.groupNotFound name)
    | some group =>
      let found := s.evaluator.members s.catalog s.defaults s.engine group
      let after := { s with engine := found.engine }
      match found.ids with
      | .error cause => ⟨.ofError cause.toApiError, after, found.reports ++ cause.reports⟩
      | .ok members => ⟨.ofJson (group.membersToJson members), after, found.reports⟩

def setMembership (s : State) (name : String) (id : Int64) (membership : Membership) : Outcome :=
  match s.groups.get? name with
  | none => s.refuse (.groupNotFound name)
  | some group =>
    let changed := group.setMembership id membership
    ⟨.ofJson changed.toJson, { s with groups := s.groups.setMembership name id membership },
      [groupEvent "Membership override set"
        [("group", .string changed.name), ("id", .ofInt id.toInt),
          ("membership", .string (code membership))]]⟩

end State

end InventorySearch.Service
