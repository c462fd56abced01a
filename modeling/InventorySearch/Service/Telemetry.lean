import InventorySearch.Service.Error
import InventorySearch.Text.Blank
import InventorySearch.Text.Lowercase

/-! How the service reports: under which name, in which environment and in which form of log. -/
namespace InventorySearch.Service

/-- The form of the log. -/
inductive LogFormat where
  /-- One JSON object on each line. -/
  | json
  /-- Text to be read by people. -/
  | pretty
  deriving DecidableEq

namespace LogFormat

def name : LogFormat → String
  | json => "Json"
  | pretty => "Pretty"

def read (s : String) : Except ApiError LogFormat :=
  let word := Text.lowercase (Text.trim s)
  if word = "json" then .ok .json
  else if word = "pretty" ∨ word = "text" then .ok .pretty
  else .error (.invalidInput ("Unknown log format: " ++ word))

end LogFormat

/-- What the service says of itself when it starts. -/
structure Telemetry where
  serviceName : String
  environment : String
  logFormat : LogFormat
  deriving DecidableEq

namespace Telemetry

/-- The settings that the variables of an environment give; an unknown form of log is ignored. -/
def ofVariables (valueOf? : String → Option String) : Telemetry where
  serviceName := (valueOf? "ASSETDESK_SERVICE_NAME").getD "assetdesk-api"
  environment := (valueOf? "ASSETDESK_ENVIRONMENT").getD "development"
  logFormat :=
    ((valueOf? "ASSETDESK_LOG_FORMAT").bind fun s => (LogFormat.read s).toOption).getD .json

/-- The first event of the service. -/
def startEvent (t : Telemetry) : LogEvent where
  target := "assetdesk_api::telemetry::tracer"
  level := .info
  message := "Telemetry initialized"
  fields :=
    [("service_name", .string t.serviceName), ("environment", .string t.environment),
      ("log_format", .string t.logFormat.name)]

end Telemetry

/-- An event as a line of the log. -/
def LogEvent.line (e : LogEvent) : LogFormat → String
  | .json =>
    Json.toText (.ofMembers
      [("level", .string e.level.name), ("target", .string e.target), ("fields", e.allFields)])
  | .pretty => e.level.name ++ " " ++ e.target ++ ": " ++ e.message

end InventorySearch.Service
