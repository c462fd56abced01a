import InventorySearch.Catalog.Basic
import InventorySearch.Json.Rule
import InventorySearch.Presentation
import InventorySearch.SearchError
import InventorySearch.Text.Pieces

/-! The defaults of a list view, for what a request leaves open. They may come from the variables
of the environment, and they are good for a catalog when it knows all their keys. -/
namespace InventorySearch

/-- The columns, the sort column, the direction and the detail tab of a list view. -/
structure Defaults where
  columns : List String
  order : String
  direction : SortDirection
  detailTab : DetailTab
  deriving DecidableEq

namespace Defaults

/-- The defaults where nothing is configured. -/
def builtin : Defaults where
  columns := ["Name", "UserName", "InventoryDate"]
  order := "InventoryDate"
  direction := .desc
  detailTab := .general

/-- A variable, trimmed, unless it is missing or blank. -/
def setting (valueOf? : String → Option String) (name : String) : Option String :=
  ((valueOf? name).map Text.trim).filter fun value => !value.isEmpty

/-- A variable that picks from a list of codes. -/
def choice {α : Type} [Choice α] (valueOf? : String → Option String) (name : String)
    (unset : α) : Except ConfigError α :=
  match setting valueOf? name with
  | none => .ok unset
  | some raw => (pick raw).mapError fun e => .invalidValue name raw e.message

/-- The columns that a variable lists, if it lists any. -/
def listedColumns? (valueOf? : String → Option String) : Option (List String) :=
  ((setting valueOf? "ASSETDESK_DEFAULT_COLUMNS").map Text.commaList).filter
    fun columns => !columns.isEmpty

/-- The defaults that the variables of an environment give. -/
def ofVariables (valueOf? : String → Option String) : Except ConfigError Defaults := do
  let direction ← choice valueOf? "ASSETDESK_DEFAULT_DIRECTION" builtin.direction
  let detailTab ← choice valueOf? "ASSETDESK_DEFAULT_JUMPTO" builtin.detailTab
  return {
    columns := (listedColumns? valueOf?).getD builtin.columns
    order := (setting valueOf? "ASSETDESK_DEFAULT_ORDER").getD builtin.order
    direction := direction
    detailTab := detailTab }

/-- Checks the defaults against a catalog: there must be columns, and all keys must be known. -/
def check (d : Defaults) (catalog : Catalog) : Except ConfigError Unit :=
  if d.columns.isEmpty then .error (.missingRequired "base_columns")
  else
    match d.columns.find? fun column => !catalog.contains column with
    | some column => .error (.invalidValue "base_columns" column "unknown filter key")
    | none =>
      if catalog.contains d.order then .ok ()
      else .error (.invalidValue "order" d.order "unknown filter key")

open Json in
def rule : Rule Defaults :=
  Fields.rule <| Defaults.mk
    <$> .required "base_columns" (.list .text)
    <*> .required "order" .text
    <*> .required "direction" .code
    <*> .required "jump_to" .code

def toJson (d : Defaults) : Json :=
  .ofMembers
    [("base_columns", .ofTexts d.columns), ("order", .string d.order),
      ("direction", .string (code d.direction)), ("jump_to", .string (code d.detailTab))]

end Defaults

end InventorySearch
