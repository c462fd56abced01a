import InventorySearch.Json.Rule
import InventorySearch.Service.MediaType
import InventorySearch.Text.Pieces

/-! Requests as they arrive: a method, a target of path and query, and perhaps a body with its media
type and the origin of the page that makes the request. -/
namespace InventorySearch.Service

/-- What is to be done with what the path names. -/
inductive Method where
  | get
  /-- Like getting, but for the body of the reply. -/
  | head
  | put
  | delete
  /-- To ask what may be done. -/
  | options
  | other (name : String)
  deriving DecidableEq

namespace Method

def name : Method → String
  | get => "GET"
  | head => "HEAD"
  | put => "PUT"
  | delete => "DELETE"
  | options => "OPTIONS"
  | other name => name

def ofName (name : String) : Method :=
  match name with
  | "GET" => get
  | "HEAD" => head
  | "PUT" => put
  | "DELETE" => delete
  | "OPTIONS" => options
  | name => other name

/-- The method by which a request is served. -/
def served : Method → Method
  | head => get
  | method => method

end Method

/-- A request as it arrives. -/
structure HttpRequest where
  method : Method
  path : String
  query : String
  mediaType : Option String
  body : String
  origin : Option String
  deriving DecidableEq

namespace HttpRequest

/-- Tells whether a character may stand in the name of a scheme. -/
def isSchemeChar (c : Char) : Bool := c.isAlphanum || c == '+' || c == '-' || c == '.'

/-- What a target has from its path on. A scheme and a host may stand before that, and the path
is then at least a slash; a host alone has no path. -/
def fromPath (target : List Char) : List Char :=
  match target with
  | '/' :: _ => target
  | ['*'] => target
  | _ =>
    match target.dropWhile isSchemeChar with
    | ':' :: '/' :: '/' :: rest =>
      match rest.dropWhile fun c => c ≠ '/' && c ≠ '?' && c ≠ '#' with
      | '/' :: behind => '/' :: behind
      | behind => '/' :: behind
    | _ => []

/-- The path and the query of a target; a fragment is not part of them. -/
def splitTarget (target : String) : String × String :=
  let (path, query) := Text.cutFirst '?' ((fromPath target.toList).takeWhile (· ≠ '#'))
  (String.ofList path, String.ofList query)

/-- A request for a target, without body and origin. -/
def ofTarget (method : Method) (target : String) : HttpRequest :=
  let (path, query) := splitTarget target
  ⟨method, path, query, none, "", none⟩

/-- The status of a refusal of a body. -/
def faultStatus : Json.Fault → Nat
  | .malformed => 400
  | .misshapen => 422

/-- The most bytes that a body may have. -/
def bodyLimit : Nat := 2097152

/-- Reads the body, which must be said to be JSON and keep to the limit; otherwise the result is the
status of the refusal. -/
def readBody {α : Type} (r : HttpRequest) (rule : Json.Rule α) : Except Nat α :=
  match r.mediaType with
  | none => .error 415
  | some mediaType =>
    if !MediaType.isJson mediaType then .error 415
    -- A body that is too long is not looked at, so that nothing in it is malformed or misshapen.
    else if bodyLimit < Text.byteLength r.body.toList then .error 413
    else (rule.readStart r.body).mapError faultStatus

end HttpRequest

end InventorySearch.Service
