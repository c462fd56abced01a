import InventorySearch.Service.Config
import InventorySearch.Text.Quoted

/-!
Cross-origin rules: which headers tell a browser whether a page may use a reply. Without configured
origins every page may; with them a page may when its origin is one of them.
-/
namespace InventorySearch.Service

/-- The origins whose pages may call the service. -/
inductive AllowedOrigins where
  | any
  | listed (origins : List String)
  deriving DecidableEq

/-- The cross-origin rules of the service. -/
structure Cors where
  origins : AllowedOrigins
  credentials : Bool
  maxAge : Nat
  deriving DecidableEq

namespace Cors

/-- Tells whether a text can be the value of a header. -/
def isHeaderValue (s : String) : Bool :=
  s.toList.all fun c => c = '\t' || (32 ≤ c.toNat && c.toNat ≠ 127)

/-- The rules of a configuration. A star among the origins is refused, since it means any origin and
belongs in no list. -/
def ofConfig? (c : Config) : Option Cors :=
  if c.isProduction then
    let origins := c.corsOrigins.filter isHeaderValue
    if origins.contains "*" then none
    else some ⟨.listed origins, c.corsAllowCredentials, c.corsMaxAge⟩
  else some ⟨.any, false, c.corsMaxAge⟩

/-- The event that tells which origins a configuration allows. -/
def event (c : Config) : LogEvent where
  target := "assetdesk_api::routes"
  level := .info
  message :=
    if c.isProduction then
      "CORS: Production mode - allowing origins: " ++ Text.quotedList c.corsOrigins
    else "CORS: Development mode - allowing all origins"
  fields := []

/-- The header that allows an origin, if it is allowed. -/
def originHeader (c : Cors) (origin : Option String) : List (String × String) :=
  match c.origins, origin with
  | .any, _ => [("access-control-allow-origin", "*")]
  | .listed origins, some o =>
    if origins.contains o then [("access-control-allow-origin", o)] else []
  | .listed _, none => []

def commonHeaders (c : Cors) (origin : Option String) : List (String × String) :=
  c.originHeader origin ++
    (if c.credentials then [("access-control-allow-credentials", "true")] else []) ++
    [("vary", "origin, access-control-request-method, access-control-request-headers")]

def replyHeaders (c : Cors) (origin : Option String) : List (String × String) :=
  c.commonHeaders origin ++ [("access-control-expose-headers", "location")]

/-- The headers of a reply to the question whether a request may be made. -/
def preflightHeaders (c : Cors) (origin : Option String) : List (String × String) :=
  c.commonHeaders origin ++
    [("access-control-allow-methods", "GET,PUT,DELETE,OPTIONS"),
      ("access-control-allow-headers", "content-type,accept"),
      ("access-control-max-age", toString c.maxAge)]

end Cors

end InventorySearch.Service
