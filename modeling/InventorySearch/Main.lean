import InventorySearch.Service.Interface
import InventorySearch.Service.Startup

/-! The command line. Without an argument the service is started from the variables of the
environment, up to the point where it would listen; with `openapi` it describes itself. -/
namespace InventorySearch.Service

def variableNames : List String :=
  ["ASSETDESK_SERVICE_NAME", "ASSETDESK_ENVIRONMENT", "ASSETDESK_LOG_FORMAT", "RUST_LOG", "PORT",
    "ASSETDESK_API_PORT", "ASSETDESK_API_BIND", "ASSETDESK_MAX_CONCURRENT_REQUESTS",
    "ASSETDESK_CORS_ORIGINS", "ASSETDESK_CORS_ALLOW_CREDENTIALS", "ASSETDESK_CORS_MAX_AGE_SECS",
    "ASSETDESK_CATALOG_FILE", "ASSETDESK_INVENTORY_FILE", "ASSETDESK_GROUPS_FILE",
    "ASSETDESK_DEFAULT_COLUMNS", "ASSETDESK_DEFAULT_ORDER", "ASSETDESK_DEFAULT_DIRECTION",
    "ASSETDESK_DEFAULT_JUMPTO"]

def readVariables : IO (List (String × String)) :=
  variableNames.filterMapM fun name => do
    return (← IO.getEnv name).map fun value => (name, value)

/-- Reads the text of a file; bytes that are not UTF-8 are no text. -/
def readText? (path : String) : IO (Option String) := do
  try
    let bytes ← IO.FS.readBinFile path
    return some ((Text.Utf8.decode bytes.toList).toOption.getD "")
  catch _ => return none

/-- Reads the files of a configuration that are there. -/
def readFiles (c : Config) : IO (List (String × String)) :=
  [c.catalogFile, c.inventoryFile, c.groupsFile].reduceOption.filterMapM fun path => do
    return (← readText? path).map fun text => (path, text)

/-- Starts the service and prints its log. -/
def start : IO UInt32 := do
  let environment ← readVariables
  let valueOf? (name : String) : Option String := environment.lookup name
  let files ←
    match Config.ofVariables valueOf? with
    | .ok config => readFiles config
    | .error _ => pure []
  let started := Start.run valueOf? fun path => files.lookup path
  for event in started.logged valueOf? do
    IO.println (event.line (Telemetry.ofVariables valueOf?).logFormat)
  match started.result with
  | .ok _ => return 0
  | .error fault =>
    IO.eprintln fault.message
    return 1

end InventorySearch.Service

open InventorySearch.Service in
/-- Runs the command line. -/
def main (args : List String) : IO UInt32 := do
  match args with
  | ["openapi"] =>
    IO.println Interface.toJson.toText
    return 0
  | _ => start
