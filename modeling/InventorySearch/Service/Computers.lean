import InventorySearch.Catalog.Form
import InventorySearch.Service.State
import InventorySearch.Text.Quoted

/-!
The list of computers and its search form. A list whose criteria cannot be read is never an error:
the client is sent back to the form it came from, or else to the list of all computers. The form
shows what is wrong.
-/
namespace InventorySearch.Service

def listPath : String := "/api/v1/computers"

def formPath : String := "/api/v1/computers/search"

/-- The result of a list search as JSON. -/
def listToJson (request : SearchRequest) (rows : List Row) : Json :=
  .ofMembers
    [("rows", .array (rows.map Row.toJson)),
      ("columns", .ofTexts request.columns),
      ("order", .string request.order),
      ("direction", .string (code request.direction)),
      ("criteria", .array (request.criteria.map Criterion.toJson)),
      ("distinct", .bool request.distinct),
      ("jump_to", .string (code request.detailTab)),
      ("total", .ofNat rows.length),
      ("query", .string (QueryString.encode request.queryPairs))]

def listEvent (level : LogLevel) (message : String) (fields : List (String × Json)) : Report :=
  .event ⟨"assetdesk_api::routes::computer", level, message, fields⟩

/-- The event of a request that was read. -/
def readEvent (request : SearchRequest) : Report :=
  listEvent .debug "Parsed list request"
    [("criteria", .ofNat request.criteria.length),
      ("columns", .string (Text.quotedList request.columns)),
      ("order", .string request.order),
      ("distinct", .bool request.distinct)]

/-- What the event of a request that could not be read tells about it. -/
def faultFields (e : SearchError) : List (String × Json) :=
  [("error", .string e.message), ("param", .string (e.param?.getD "-"))]

/-- Sends the client of a list that could not be read back to where it came from. -/
def State.sendBack (s : State) (query : String) (customSearch : Bool) (e : SearchError) : Outcome :=
  if customSearch then
    s.answer (.seeOther (formPath ++ "?" ++ query))
      [listEvent .warn "Invalid search, returning to search form" (faultFields e),
        .search .backToForm]
  else
    s.answer (.seeOther listPath)
      [listEvent .warn "Invalid list request, showing unfiltered list" (faultFields e),
        .search .backToList]

/-- Lists the computers that a query string asks for. -/
def State.listComputers (s : State) (query : String) : Outcome :=
  let params := QueryString.decode query
  let customSearch := params.contains "customSearch"
  match params.request s.catalog s.defaults (.listView customSearch) with
  | .error e => s.sendBack query customSearch e
  | .ok request =>
    match s.engine.resolve request with
    | (engine, .error cause) =>
      ⟨.ofError cause.toApiError, { s with engine := engine },
        readEvent request :: cause.reports⟩
    | (engine, .ok rows) =>
      ⟨.ofJson (listToJson request rows), { s with engine := engine },
        [readEvent request, .search .found]⟩

/-- The search form as JSON: what may be chosen, what was submitted, and the request that it makes
or what is wrong with it. -/
def formToJson (catalog : Catalog) (params : Params) (result : Except SearchError SearchRequest) :
    Json :=
  let errors :=
    match result with
    | .ok _ => []
    | .error e => [(FieldError.ofSearch e).toJson]
  let request :=
    match result with
    | .ok request => [("request", request.toJson)]
    | .error _ => []
  .ofMembers <|
    [("filters", catalog.formFields),
      ("jump_targets", .ofTexts ((Coded.all : List DetailTab).map code)),
      ("params", .array <| params.pairs.map fun (name, value) =>
        .ofMembers [("name", .string name), ("value", .string value)]),
      ("errors", .array errors)] ++ request

/-- Shows the search form for a query string. -/
def State.searchForm (s : State) (query : String) : Outcome :=
  let params := QueryString.decode query
  let result := params.request s.catalog s.defaults (.listView true)
  s.answer (.ofJson (formToJson s.catalog params result)) []

end InventorySearch.Service
