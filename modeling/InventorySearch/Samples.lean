import InventorySearch.Catalog.Extensions
import InventorySearch.Group.Basic
import InventorySearch.Inventory.Search
import InventorySearch.Request.Reading

/-! A small inventory to try searches on: a catalog with a few extensions, five computers with
single and repeated values, and a group with a member forced in and another forced out. -/
namespace InventorySearch.Samples

/-- Two user-defined fields and a registry value. -/
def extensions : Extensions where
  declaredFields := [⟨"AssetTag", .text⟩, ⟨"PurchaseDate", .date⟩]
  registryValues := ["BitLocker"]

def catalog : Catalog := .extended extensions

/-- The records of five computers. -/
def records : List InventoryRecord :=
  [.ofFields 1
      [("Name", .string "test"), ("UserName", .string "alice"),
        ("InventoryDate", .string "2024-03-01"), ("OsName", .string "Windows 10"),
        ("CpuType", .string "Intel Core i5"), ("CpuClock", .ofNat 2400),
        ("PhysicalMemory", .ofNat 8192), ("Software.Name", .ofTexts ["Office 2019", "Firefox"]),
        ("UserDefinedInfo.AssetTag", .string "A-100")],
    .ofFields 2
      [("Name", .string "build01"), ("UserName", .string "bob"),
        ("InventoryDate", .string "2024-01-15"), ("OsName", .string "Linux"),
        ("CpuType", .string "AMD Ryzen 7"), ("CpuClock", .ofNat 3600),
        ("PhysicalMemory", .ofNat 32768), ("Software.Name", .ofTexts ["Firefox", "Git"])],
    .ofFields 3
      [("Name", .string "kiosk"), ("InventoryDate", .string "2023-12-24"),
        ("OsName", .string "Windows 10")],
    .ofFields 4
      [("Name", .string "ws-sales-01"), ("UserName", .string "carol"),
        ("InventoryDate", .string "2024-02-10"), ("OsName", .string "Windows 11"),
        ("CpuType", .string "Intel Core i5"), ("CpuClock", .ofNat 2400),
        ("Software.Name", .ofTexts ["Office 2021", "Office 2019"]),
        ("Registry.BitLocker", .string "enabled"),
        ("UserDefinedInfo.PurchaseDate", .string "2021-06-30")],
    .ofFields 5
      [("Name", .string "test-lab"), ("UserName", .string "dave"),
        ("InventoryDate", .string "2024-03-05"), ("OsName", .string "Linux"),
        ("CpuClock", .ofNat 3000)]]

/-- The sample records typed by the sample catalog. -/
def inventory : Inventory :=
  match Inventory.load catalog records with
  | .ok inventory => inventory
  | .error _ => .empty

/-- Reads parameters strictly against the sample catalog. -/
def request (params : Params) : Except SearchError SearchRequest :=
  params.request catalog .builtin .strict

/-- The group of the computers that run Linux, with an addition and an exclusion. -/
def group : Group :=
  let found : Group :=
    { Group.new "Linux" with
      description := some "Linux workstations and servers"
      query := some "filter=OsName&search=Linux" }
  (found.setMembership 5 .never).setMembership 3 .always

/-- What a form submits for one criterion. -/
structure CriterionInput where
  key : String
  operator : Operator
  raw : String
  invert : Bool

namespace CriterionInput

def params (c : CriterionInput) (names : CriterionParams) : List (String × String) :=
  [(names.filter, c.key), (names.search, c.raw), (names.operator, code c.operator),
    (names.invert, if c.invert then "1" else "0")]

/-- The parameters in the singular form. -/
def singular (c : CriterionInput) : Params := ⟨c.params .singular⟩

/-- The parameters in the indexed form. -/
def indexed (c : CriterionInput) (n : Nat) : Params := ⟨c.params (.indexed n)⟩

/-- Adds the parameters in the indexed form. -/
def pushIndexed (c : CriterionInput) (n : Nat) (params : Params) : Params :=
  ⟨params.pairs ++ (c.indexed n).pairs⟩

end CriterionInput

/-- Tells whether reading failed because of an unknown filter with the given key. -/
def isUnknownFilter {α : Type} (result : Except SearchError α) (key : String) : Bool :=
  match result with
  | .error (.unknownFilter _ actual) => actual == key
  | _ => false

/-- Tells whether reading failed for another reason that belongs to the given parameter. -/
def isInvalid {α : Type} (result : Except SearchError α) (param : String) : Bool :=
  match result with
  | .error (.unknownFilter _ _) => false
  | .error e => e.param? == some param
  | .ok _ => false

end InventorySearch.Samples
