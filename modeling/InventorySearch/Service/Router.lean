import InventorySearch.Service.CatalogChange
import InventorySearch.Service.Computers
import InventorySearch.Service.Cors
import InventorySearch.Service.Groups
import InventorySearch.Service.HttpRequest
import InventorySearch.Service.Interface
import InventorySearch.Service.PathLabel
import InventorySearch.Service.Route

/-!
Serving requests. The path decides first, then the method, then names in the path, then the body,
and only then is anything done. Every request is reported when it comes and when it has been
served, but for the question of a browser whether a page may make a request.
-/
namespace InventorySearch.Service

/-- The name and the id that encoded segments of a path give. -/
def readMember (name id : String) : Except ApiError (String × Int64) := do
  let decode (param segment : String) : Except ApiError String :=
    match Route.decodeSegment? segment with
    | some text => .ok text
    | none => .error (.invalidInput ("Invalid member path: Invalid UTF-8 in `" ++ param ++ "`"))
  let name ← decode "name" name
  let idText ← decode "id" id
  -- That a name is blank is only told once the id has been read.
  match Number.readInt64? idText with
  | none =>
    .error ((ApiError.invalidInput ("Invalid computer id '" ++ idText ++ "'")).withField "id")
  | some id => (groupName name).map fun name => (name, id)

def Reply.withoutBody (r : Reply) : Reply := { r with body := none }

namespace State

/-- Goes on with the name that an encoded segment gives, which must be UTF-8. -/
def withName (s : State) (segment : String) (next : String → Outcome) : Outcome :=
  match Route.decodeSegment? segment with
  | some name => next name
  | none => s.answer (.bare 400) []

/-- Goes on with the body of a request, which must obey a rule. -/
def withBody {α : Type} (s : State) (r : HttpRequest) (rule : Json.Rule α)
    (next : α → Outcome) : Outcome :=
  match r.readBody rule with
  | .ok input => next input
  | .error status => s.answer (.bare status) []

def showHealth (s : State) : Outcome :=
  s.answer
    (.ofJson (.ofMembers
      [("status", .string "healthy"), ("version", .string version),
        ("filters", .ofNat s.catalog.size)])) []

/-- Stores the group that a path names from the body of a request. -/
def putGroup (s : State) (segment : String) (r : HttpRequest) : Outcome :=
  s.withName segment fun name => s.withBody r GroupInput.rule fun input =>
    s.upsertGroup name input

/-- Sets the membership that a path names from the body of a request. -/
def putMember (s : State) (name id : String) (r : HttpRequest) : Outcome :=
  match readMember name id with
  | .error e => s.refuse e
  | .ok (name, id) => s.withBody r membershipRule fun membership =>
    s.setMembership name id membership

/-- Serves a request for a route; what the route does not offer is refused. -/
def serveRoute (s : State) (route : Route) (r : HttpRequest) : Outcome :=
  match route, r.method.served with
  | .computers, .get => s.listComputers r.query
  | .searchForm, .get => s.searchForm r.query
  | .groups, .get => s.listGroups
  | .group name, .put => s.putGroup name r
  | .group name, .delete => s.withName name s.deleteGroup
  | .groupMembers name, .get => s.withName name s.groupMembers
  | .groupMember name id, .put => s.putMember name id r
  | .catalog, .get => s.showCatalog
  | .extensions, .put => s.withBody r Extensions.rule s.replaceExtensions
  | .health, .get => s.showHealth
  | .metrics, .get => s.answer (.bare 200) []
  | .interface, .get => s.answer (.ofJson Interface.toJson) []
  | _, _ => s.answer (.bare 405) []

/-- Serves a request; a path that leads nowhere is refused. -/
def serve (s : State) (r : HttpRequest) : Outcome :=
  match Route.ofPath? r.path with
  | some route => s.serveRoute route r
  | none => s.answer (.bare 404) []

end State

def arrival (r : HttpRequest) : Report :=
  .span "http_request"
    [("http.method", .string r.method.name), ("http.target", .string r.path),
      ("http.route", .string (pathLabel r.path))]

/-- What is reported when a request has been served. -/
def completion (r : HttpRequest) (status : Nat) : List Report :=
  [.request r.method.name (pathLabel r.path) status,
    .event ⟨"assetdesk_api::telemetry::middleware", .info, "Request completed",
      [("method", .string r.method.name), ("path", .string r.path), ("status", .ofNat status)]⟩]

/-- Serves a request and reports it; who asks for the head gets no body. -/
def State.handle (s : State) (r : HttpRequest) : Outcome :=
  let outcome := s.serve r
  let reply := if r.method = .head then outcome.reply.withoutBody else outcome.reply
  { outcome with
    reply := reply
    reports := arrival r :: outcome.reports ++ completion r reply.status }

/-- An outcome with the headers that tell a browser who may use the reply. -/
structure Exchange where
  outcome : Outcome
  headers : List (String × String)

/-- Answers a request under cross-origin rules. The question what may be done is answered by the
rules alone. -/
def Cors.exchange (c : Cors) (s : State) (r : HttpRequest) : Exchange :=
  if r.method = .options then ⟨s.answer (.bare 200) [], c.preflightHeaders r.origin⟩
  else ⟨s.handle r, c.replyHeaders r.origin⟩

end InventorySearch.Service
