import InventorySearch.Group.Members
import InventorySearch.Inventory.Search
import InventorySearch.SavedSearch
import InventorySearch.Service.Error

/-!
The query engines that the service can run on, and the ways to evaluate the query of a group. The
inventory in memory is the real engine; the others fail on purpose, or answer every search with the
same rows and keep the requests they receive.
-/
namespace InventorySearch.Service

/-- What answers searches. -/
inductive Engine where
  | inventory (i : Inventory)
  | failing (reason : String)
  | locked
  | canned (rows : List Row) (received : List SearchRequest)

namespace Engine

/-- Answers a search; the engine may change by it. -/
def resolve (e : Engine) (request : SearchRequest) : Engine × Except Cause (List Row) :=
  match e with
  | inventory i => (e, .ok (i.search request))
  | failing reason => (e, .error (.engine reason))
  | locked => (e, .error .locked)
  | canned rows received => (.canned rows (received ++ [request]), .ok rows)

/-- Prepares the engine for a new catalog, or refuses the catalog. -/
def retype (e : Engine) (catalog : Catalog) : Except Cause Engine :=
  match e with
  | inventory i =>
    match i.retype catalog with
    | .ok i => .ok (.inventory i)
    | .error e => .error (.search e)
  | locked => .error .locked
  | other => .ok other

end Engine

/-- What evaluates the query of a group. -/
inductive Evaluator where
  /-- The query is a saved search. -/
  | savedSearch
  /-- Each query has a fixed answer, none where it is not listed. -/
  | fixed (answers : List (String × IdSet))

/-- The event that tells what a query found. -/
def foundEvent (query : String) (rows : List Row) : LogEvent where
  target := "assetdesk_api::services::saved_search"
  level := .debug
  message := "Evaluated group predicate"
  fields := [("predicate", .string query), ("matches", .ofNat rows.length)]

/-- The result of evaluating a query: the engine after it, what was found, and what is reported. -/
structure Found where
  engine : Engine
  ids : Except Cause IdSet
  reports : List Report

/-- Runs a saved search on an engine. -/
def runSavedSearch (catalog : Catalog) (defaults : Defaults) (engine : Engine) (query : String) :
    Found :=
  match savedRequest catalog defaults query with
  | .error e => ⟨engine, .error (.search e), []⟩
  | .ok request =>
    match engine.resolve { request with distinct := true } with
    | (engine, .error cause) => ⟨engine, .error cause, []⟩
    | (engine, .ok rows) =>
      ⟨engine, .ok (.ofList (rows.map (·.id))), [.event (foundEvent query rows)]⟩

def Evaluator.run (evaluator : Evaluator) (catalog : Catalog) (defaults : Defaults)
    (engine : Engine) (query : String) : Found :=
  match evaluator with
  | savedSearch => runSavedSearch catalog defaults engine query
  | fixed answers => ⟨engine, .ok ((answers.lookup query).getD ∅), []⟩

/-- Evaluates the members of a group; a group without a query finds nobody. -/
def Evaluator.members (evaluator : Evaluator) (catalog : Catalog) (defaults : Defaults)
    (engine : Engine) (g : Group) : Found :=
  match g.query with
  | none => ⟨engine, .ok (resolveMembers ∅ g.overrides), []⟩
  | some query =>
    let found := evaluator.run catalog defaults engine query
    { found with ids := found.ids.map fun ids => resolveMembers ids g.overrides }

end InventorySearch.Service
