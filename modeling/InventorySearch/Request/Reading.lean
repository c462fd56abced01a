import InventorySearch.Defaults
import InventorySearch.FieldId
import InventorySearch.Request.Basic
import InventorySearch.Request.Params

/-!
Reading a search request from its parameters. Criteria come in the singular form, one without a
number, or in the indexed form, numbered from one without a gap; the singular form wins. Criteria
are always read strictly, while a fault in the presentation may give way to the defaults.
-/
namespace InventorySearch

/-- What a fault in a part of the presentation leads to. -/
inductive Mode where
  | strict
  | lenient
  deriving DecidableEq

/-- The modes for the parts of the presentation; the direction goes with the order. -/
structure Modes where
  columns : Mode
  order : Mode
  detailTab : Mode
  deriving DecidableEq

namespace Modes

/-- Every fault is an error. -/
def strict : Modes := ⟨.strict, .strict, .strict⟩

/-- No fault in the presentation is an error. -/
def lenient : Modes := ⟨.lenient, .lenient, .lenient⟩

/-- The modes of a list view: what the search form submits is read strictly but for the tab. -/
def listView (customSearch : Bool) : Modes :=
  if customSearch then { strict with detailTab := .lenient } else lenient

end Modes

/-- The key that a filter parameter names: a key of the catalog, else the field id of one. -/
def resolveKey (catalog : Catalog) (filter : String) : String :=
  if catalog.contains filter then filter
  else
    match FieldId.decode filter with
    | .ok key => if catalog.contains key then key else filter
    | .error _ => filter

/-- Reads a flag; a missing one is off. -/
def readFlag (raw : Option String) (param : String) : Except SearchError Bool :=
  match raw with
  | none => .ok false
  | some raw =>
    let word := Text.asciiLower (Text.trim raw)
    if ["1", "true", "on", "yes"].contains word then .ok true
    else if ["", "0", "false", "off", "no"].contains word then .ok false
    else .error (.invalidValue param raw "expected a boolean flag")

/-- Reads an operator; a missing or empty one is equality. -/
def readOperator (raw : Option String) (param : String) : Except SearchError Operator :=
  match raw with
  | none => .ok .eq
  | some raw => (pick raw).mapError fun _ => .unknownOperator param raw

namespace Params

/-- Reads the criterion with the given filter from the parameters of the given names. -/
def criterion (p : Params) (catalog : Catalog) (names : CriterionParams) (filter : String) :
    Except SearchError Criterion := do
  let operator ← readOperator (p.nonEmpty? names.operator) names.operator
  let invert ← readFlag (p.first? names.invert) names.invert
  let search := (p.first? names.search).getD ""
  Criterion.build catalog (resolveKey catalog filter) operator search invert names

/-- The filters of the indexed form with their numbers, up to the first gap. -/
def indexedFilters (p : Params) : List (Nat × String) :=
  let filter? (n : Nat) := p.nonEmpty? (CriterionParams.indexed n).filter
  let numbers := (List.range' 1 p.pairs.length).takeWhile fun n => (filter? n).isSome
  numbers.filterMap fun n => (filter? n).map fun filter => (n, filter)

/-- Reads the criteria; the first one that is wrong is the error. -/
def criteria (p : Params) (catalog : Catalog) : Except SearchError (List Criterion) :=
  match p.nonEmpty? CriterionParams.singular.filter with
  | some filter => do
    let c ← p.criterion catalog .singular filter
    return [c]
  | none => p.indexedFilters.mapM fun (n, filter) => p.criterion catalog (.indexed n) filter

/-- Keeps the columns that the catalog knows; in strict mode the first other one is an error. -/
def knownColumns (catalog : Catalog) (mode : Mode) (columns : List String) :
    Except SearchError (List String) :=
  match mode, columns.find? fun column => !catalog.contains column with
  | .strict, some column => .error (.unknownColumn "columns" column)
  | _, _ => .ok (columns.filter catalog.contains)

def baseColumns (p : Params) (catalog : Catalog) (defaults : Defaults) (mode : Mode) :
    Except SearchError (List String) :=
  match p.nonEmpty? "columns" with
  | none => .ok defaults.columns
  | some raw => do
    let columns ← knownColumns catalog mode (Text.commaList raw)
    match withoutRepeats columns, mode with
    | [], .strict => .error (.invalidValue "columns" raw "no columns selected")
    | [], .lenient => .ok defaults.columns
    | columns, _ => .ok columns

def order (p : Params) (catalog : Catalog) (defaults : Defaults) (mode : Mode) :
    Except SearchError String :=
  match p.nonEmpty? "order" with
  | none => .ok defaults.order
  | some order =>
    if catalog.contains order then .ok order
    else
      match mode with
      | .strict => .error (.unknownColumn "order" order)
      | .lenient => .ok defaults.order

/-- Reads a parameter that picks from a list of codes. -/
def choice {α : Type} [Choice α] (p : Params) (name : String) (mode : Mode) (unset : α)
    (reason : CodeError → String) : Except SearchError α :=
  match p.nonEmpty? name with
  | none => .ok unset
  | some raw =>
    match pick raw, mode with
    | .ok a, _ => .ok a
    | .error _, .lenient => .ok unset
    | .error e, .strict => .error (.invalidValue name raw (reason e))

def direction (p : Params) (defaults : Defaults) (mode : Mode) :
    Except SearchError SortDirection :=
  p.choice "direction" mode defaults.direction fun _ => "expected asc or desc"

def detailTab (p : Params) (defaults : Defaults) (mode : Mode) : Except SearchError DetailTab :=
  p.choice "jumpto" mode defaults.detailTab CodeError.message

def request (p : Params) (catalog : Catalog) (defaults : Defaults) (modes : Modes) :
    Except SearchError SearchRequest := do
  let criteria ← p.criteria catalog
  let base ← p.baseColumns catalog defaults modes.columns
  let order ← p.order catalog defaults modes.order
  let direction ← p.direction defaults modes.order
  let detailTab ← p.detailTab defaults modes.detailTab
  return {
    criteria := criteria
    columns := selectColumns base criteria
    order := order
    direction := direction
    distinct := p.contains "distinct"
    customSearch := p.contains "customSearch"
    detailTab := detailTab }

end Params

end InventorySearch
