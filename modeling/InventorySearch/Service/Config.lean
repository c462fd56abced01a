import InventorySearch.Json.Basic
import InventorySearch.Number.Reading
import InventorySearch.Service.Address
import InventorySearch.Service.Error
import InventorySearch.Text.Lowercase
import InventorySearch.Text.Pieces

/-! The configuration of the service, taken from the variables of the environment: where to listen,
which web pages may call it, and the files to load. Only a bad port is an error. -/
namespace InventorySearch.Service

/-- The settings of the service. -/
structure Config where
  bindHost : String
  port : Nat
  maxConcurrentRequests : Nat
  corsOrigins : List String
  corsAllowCredentials : Bool
  corsMaxAge : Nat
  catalogFile : Option String
  inventoryFile : Option String
  groupsFile : Option String
  deriving DecidableEq

namespace Config

/-- The settings where nothing is configured. -/
def builtin : Config where
  bindHost := "0.0.0.0"
  port := 3000
  maxConcurrentRequests := 512
  corsOrigins := []
  corsAllowCredentials := false
  corsMaxAge := 86400
  catalogFile := none
  inventoryFile := none
  groupsFile := none

/-- A variable as it is, unless it is missing or blank. -/
def nonBlank? (valueOf? : String → Option String) (name : String) : Option String :=
  (valueOf? name).filter fun value => !Text.isBlankText value

/-- The port; one variable goes before the other, and what it says must be a port. -/
def portOf (valueOf? : String → Option String) : Except ApiError Nat :=
  match (valueOf? "PORT").or (valueOf? "ASSETDESK_API_PORT") with
  | none => .ok builtin.port
  | some raw =>
    match Number.readBelow? 65536 (Text.trim raw) with
    | some port => .ok port
    | none => .error (.invalidInput ("Invalid port value: " ++ raw))

/-- A variable of 64 bits without blanks. -/
def natural? (valueOf? : String → Option String) (name : String) : Option Nat :=
  (valueOf? name).bind (Number.readBelow? (Nat.pow 2 64))

/-- The settings that the variables of an environment give. -/
def ofVariables (valueOf? : String → Option String) : Except ApiError Config :=
  (portOf valueOf?).map fun port =>
    { bindHost := (nonBlank? valueOf? "ASSETDESK_API_BIND").getD builtin.bindHost
      port := port
      maxConcurrentRequests :=
        ((natural? valueOf? "ASSETDESK_MAX_CONCURRENT_REQUESTS").filter (0 < ·)).getD
          builtin.maxConcurrentRequests
      corsOrigins := ((valueOf? "ASSETDESK_CORS_ORIGINS").map Text.commaList).getD []
      corsAllowCredentials :=
        ((valueOf? "ASSETDESK_CORS_ALLOW_CREDENTIALS").map Text.lowercase) == some "true"
      corsMaxAge := (natural? valueOf? "ASSETDESK_CORS_MAX_AGE_SECS").getD builtin.corsMaxAge
      catalogFile := nonBlank? valueOf? "ASSETDESK_CATALOG_FILE"
      inventoryFile := nonBlank? valueOf? "ASSETDESK_INVENTORY_FILE"
      groupsFile := nonBlank? valueOf? "ASSETDESK_GROUPS_FILE" }

def bindAddress (c : Config) : Except ApiError SocketAddress :=
  let text := c.bindHost ++ ":" ++ toString c.port
  match SocketAddress.read? text with
  | some address => .ok address
  | none =>
    .error (.invalidInput ("Invalid bind address " ++ text ++ ": invalid socket address syntax"))

/-- Only pages of given origins may call the service once any are configured. -/
def isProduction (c : Config) : Bool := !c.corsOrigins.isEmpty

def toJson (c : Config) : Json :=
  let text? (s : Option String) : Json := .orNull (s.map .string)
  .ofMembers
    [("bind_host", .string c.bindHost), ("port", .ofNat c.port),
      ("max_concurrent_requests", .ofNat c.maxConcurrentRequests),
      ("cors_origins", .ofTexts c.corsOrigins),
      ("cors_allow_credentials", .bool c.corsAllowCredentials),
      ("cors_max_age_secs", .ofNat c.corsMaxAge),
      ("catalog_file", text? c.catalogFile), ("inventory_file", text? c.inventoryFile),
      ("groups_file", text? c.groupsFile), ("is_production", .bool c.isProduction)]

end Config

end InventorySearch.Service
