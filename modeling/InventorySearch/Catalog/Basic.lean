import InventorySearch.Json.Basic
import InventorySearch.ValueType
import Std.Data.TreeMap

/-!
The filter catalog: every key that may be searched, with its label and the type of its values, in
the order of the keys. What is registered last under a key is what the key means.
-/
namespace InventorySearch

/-- What is known of one filter. -/
structure FilterDefinition where
  key : String
  label : String
  valueType : ValueType
  deriving DecidableEq

/-- The label and the type of one filter. -/
structure FilterEntry where
  label : String
  valueType : ValueType
  deriving DecidableEq

/-- The filters by their keys. -/
structure Catalog where
  entries : Std.TreeMap String FilterEntry

namespace Catalog

def empty : Catalog := ⟨∅⟩

/-- Adds a filter, in place of one with the same key. -/
def register (c : Catalog) (key label : String) (valueType : ValueType) : Catalog :=
  ⟨c.entries.insert key ⟨label, valueType⟩⟩

def lookup? (c : Catalog) (key : String) : Option FilterDefinition :=
  c.entries[key]?.map fun entry => ⟨key, entry.label, entry.valueType⟩

def typeOf? (c : Catalog) (key : String) : Option ValueType := (c.lookup? key).map (·.valueType)

def contains (c : Catalog) (key : String) : Bool := (c.lookup? key).isSome

/-- All filters in the order of their keys. -/
def definitions (c : Catalog) : List FilterDefinition :=
  c.entries.toList.map fun (key, entry) => ⟨key, entry.label, entry.valueType⟩

def size (c : Catalog) : Nat := c.entries.size

/-- The built-in filters of whole numbers. -/
def integerKeys : List String :=
  ["CpuClock", "CpuCores", "PhysicalMemory", "SwapMemory", "Volume.Size", "Volume.FreeSpace"]

/-- The built-in filters of dates. -/
def dateKeys : List String := ["InventoryDate", "LastContactDate"]

/-- The keys and labels of the built-in filters. -/
def builtinLabels : List (String × String) :=
  [("Name", "Computer name"),
    ("UserName", "User logged in at last inventory"),
    ("Windows.UserDomain", "Domain of the logged in user"),
    ("Windows.Workgroup", "Workgroup"),
    ("Windows.ProductKey", "Windows product key"),
    ("OsName", "OS name"),
    ("OsVersionNumber", "OS version number"),
    ("OsVersionString", "OS version string"),
    ("CpuType", "CPU type"),
    ("CpuClock", "CPU clock (MHz)"),
    ("CpuCores", "CPU cores"),
    ("PhysicalMemory", "RAM detected by agent (MB)"),
    ("SwapMemory", "Swap memory (MB)"),
    ("InventoryDate", "Last inventory"),
    ("LastContactDate", "Last contact"),
    ("Software.Name", "Software: Name"),
    ("Software.Version", "Software: Version"),
    ("Software.Publisher", "Software: Publisher"),
    ("NetworkInterface.IpAddress", "Network: IP address"),
    ("NetworkInterface.MacAddress", "Network: MAC address"),
    ("Volume.Size", "Filesystem: Size (MB)"),
    ("Volume.FreeSpace", "Filesystem: Free space (MB)"),
    ("Printer.Name", "Printer: Name"),
    ("MsOfficeProduct.ProductKey", "MS Office: Product key")]

def builtinType (key : String) : ValueType :=
  if integerKeys.contains key then .integer
  else if dateKeys.contains key then .date
  else .text

def builtin : Catalog :=
  builtinLabels.foldl (fun c (key, label) => c.register key label (builtinType key)) empty

end Catalog

def FilterDefinition.toJson (d : FilterDefinition) : Json :=
  .ofMembers
    [("key", .string d.key), ("label", .string d.label),
      ("value_type", .string (code d.valueType))]

end InventorySearch
