import InventorySearch.Catalog.Extensions
import InventorySearch.Service.Cors
import InventorySearch.Service.Inspect
import InventorySearch.Service.LogFilter
import InventorySearch.Service.State
import InventorySearch.Service.Telemetry

/-!
Starting the service: the settings come first, then the data files, then the cross-origin rules and
the address. The first thing that is wrong ends it. Stored groups are taken as they are, but their
queries must be readable.
-/
namespace InventorySearch.Service

/-- A data file: the name by which messages call it, and its text unless there is no such file. -/
structure DataFile where
  name : String
  text? : Option String

/-- Reads a data file. The message about a text that is refused ends with the name of the file: the
account of what is wrong with the text, and at which line and column, is left out. -/
def DataFile.read {α : Type} (f : DataFile) (rule : Json.Rule α) : Except ApiError α :=
  match f.text? with
  | none =>
    .error (.internalError
      ("Failed to read " ++ f.name ++ ": No such file or directory (os error 2)"))
  | some text =>
    (rule.readWhole text).mapError fun _ => .invalidInput ("Invalid JSON in " ++ f.name)

/-- The data files that are configured. -/
structure DataFiles where
  catalog : Option DataFile
  inventory : Option DataFile
  groups : Option DataFile

/-- Reads a data file, if one is configured. -/
def readConfigured {α : Type} (f : Option DataFile) (rule : Json.Rule α) (unset : α) :
    Except ApiError α :=
  match f with
  | some f => f.read rule
  | none => .ok unset

/-- The content of the data files. -/
structure DataSet where
  extensions : Extensions
  inventory : Inventory
  groups : List Group

namespace DataSet

def catalog (d : DataSet) : Catalog := .extended d.extensions

/-- Stored groups must have queries that can be read. -/
def checkQueries (catalog : Catalog) (defaults : Defaults) (groups : List Group) :
    Except SearchError Unit :=
  (groups.filterMap (·.query)).forM fun query =>
    (savedRequest catalog defaults query).map fun _ => ()

/-- Reads the data files and checks them in their order. -/
def read (files : DataFiles) (defaults : Defaults) : Except ApiError DataSet := do
  let extensions ← readConfigured files.catalog Extensions.rule .empty
  let catalog := Catalog.extended extensions
  (defaults.check catalog).mapError .ofConfig
  let records ← readConfigured files.inventory (.list InventoryRecord.rule) []
  let inventory ← (Inventory.load catalog records).mapError .ofSearch
  let groups ← readConfigured files.groups (.list Group.rule) []
  (checkQueries catalog defaults groups).mapError .ofSearch
  return ⟨extensions, inventory, groups⟩

/-- The event that tells how much data there is. -/
def event (d : DataSet) : LogEvent where
  target := "assetdesk_api::state"
  level := .info
  message := "Loaded filter catalog and inventory"
  fields :=
    [("filters", .ofNat d.catalog.size), ("user_defined", .ofNat d.extensions.declaredFields.length),
      ("registry_values", .ofNat d.extensions.registryValues.length),
      ("records", .ofNat d.inventory.records.length), ("groups", .ofNat d.groups.length)]

def reports (d : DataSet) : List Report := [.catalogSize d.catalog.size, .event d.event]

/-- The state that the service starts with. -/
def state (d : DataSet) (defaults : Defaults) : State where
  catalog := d.catalog
  engine := .inventory d.inventory
  groups := .ofList d.groups
  defaults := defaults
  evaluator := .savedSearch

end DataSet

/-- Why the service does not start. -/
inductive StartFault where
  | refused (e : ApiError)
  /-- A star is listed among the allowed origins. -/
  | starOrigin

def StartFault.message : StartFault → String
  | refused e => "Error: " ++ e.inspect
  | starOrigin => "Error: a star cannot be listed among the allowed origins"

/-- A service that is ready to listen. -/
structure Ready where
  state : State
  cors : Cors
  address : SocketAddress

/-- A start: the events on the way in their order, and how it ends. -/
structure Start where
  events : List LogEvent
  result : Except StartFault Ready

namespace Start

/-- The start that a fault ends. -/
def fail (events : List LogEvent) (fault : StartFault) : Start := ⟨events, .error fault⟩

/-- The data files of a configuration, with a way to look up the text of a path. -/
def dataFiles (c : Config) (textAt? : String → Option String) : DataFiles :=
  let file (path : String) : DataFile := ⟨path, textAt? path⟩
  ⟨c.catalogFile.map file, c.inventoryFile.map file, c.groupsFile.map file⟩

/-- The event of a service that is about to listen. -/
def listenEvent (address : SocketAddress) : LogEvent where
  target := "assetdesk_api"
  level := .info
  message := "Starting assetdesk API server"
  fields := [("addr", .string address.toText)]

/-- Sets up the cross-origin rules and the address for data that has been read. -/
def withData (events : List LogEvent) (c : Config) (defaults : Defaults) (d : DataSet) : Start :=
  let events := events ++ [d.event, Cors.event c]
  match Cors.ofConfig? c with
  | none => fail events .starOrigin
  | some cors =>
    match c.bindAddress with
    | .error e => fail events (.refused e)
    | .ok address => ⟨events ++ [listenEvent address], .ok ⟨d.state defaults, cors, address⟩⟩

/-- Starts the service in an environment, with a way to look up the text of a path. -/
def run (valueOf? : String → Option String) (textAt? : String → Option String) : Start :=
  let events := [(Telemetry.ofVariables valueOf?).startEvent]
  match Config.ofVariables valueOf? with
  | .error e => fail events (.refused e)
  | .ok config =>
    match Defaults.ofVariables valueOf? with
    | .error e => fail events (.refused (.ofConfig e))
    | .ok defaults =>
      match DataSet.read (dataFiles config textAt?) defaults with
      | .error e => fail events (.refused e)
      | .ok d => withData events config defaults d

/-- The events that the log of an environment keeps. -/
def logged (s : Start) (valueOf? : String → Option String) : List LogEvent :=
  s.events.filter (LogFilter.ofSetting (valueOf? "RUST_LOG")).keeps

end Start

end InventorySearch.Service
