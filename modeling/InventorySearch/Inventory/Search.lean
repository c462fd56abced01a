import InventorySearch.Inventory.Record
import InventorySearch.Request.Basic

/-!
The rows that a search finds. A criterion that is not inverted joins: each value that satisfies it
gives a row, and several criteria on one key must be satisfied by one value. An inverted criterion
only asks that no value satisfies its operator. Rows are sorted by the order column, missing values
as the least, and then by the id of the record.
-/
namespace InventorySearch

/-- One row of a result: the values of the columns, if the record has any. -/
structure Row where
  id : Int64
  values : List (String × Option TypedValue)
  deriving DecidableEq

def Row.toJson (r : Row) : Json :=
  .ofMembers
    [("id", .ofInt r.id.toInt),
      ("values", .ofMembers <| r.values.map fun (column, value) =>
        (column, .orNull (value.map TypedValue.toJson)))]

/-- The keys joined so far, each with its values that satisfy all criteria so far. -/
abbrev Joined := List (String × List TypedValue)

/-- Joins the values of a key. A key that is joined already keeps those of its values that are
among the new ones; no row is left when a key has no value. -/
def Joined.narrow (key : String) (matching : List TypedValue) : Joined → Option Joined
  | [] => if matching.isEmpty then none else some [(key, matching)]
  | (k, values) :: rest =>
    if k = key then
      let kept := values.filter fun v => matching.any fun m => m.same v
      if kept.isEmpty then none else some ((k, kept) :: rest)
    else (narrow key matching rest).map ((k, values) :: ·)

/-- Applies one criterion to a record. -/
def joinCriterion (r : TypedRecord) (joined : Joined) (c : Criterion) : Option Joined :=
  let matching := (r.values c.key).filter c.operatorMatches
  if c.invert then if matching.isEmpty then some joined else none
  else joined.narrow c.key matching

/-- Applies the criteria to a record in their order. -/
def joinCriteria (r : TypedRecord) (criteria : List Criterion) : Option Joined :=
  criteria.foldlM (joinCriterion r) []

/-- The combinations of one value for each joined key; the values of the first key vary slowest. -/
def combinations : Joined → List (List (String × TypedValue))
  | [] => [[]]
  | (key, values) :: rest =>
    values.flatMap fun value => (combinations rest).map ((key, value) :: ·)

/-- The value of a column: the joined one, or the first that the record has. -/
def columnValue (r : TypedRecord) (combination : List (String × TypedValue)) (column : String) :
    Option TypedValue :=
  (combination.lookup column).or (r.first? column)

/-- A row together with the value that it is sorted by. -/
structure SortedRow where
  value : Option TypedValue
  row : Row
  deriving DecidableEq

/-- The row that a combination of values gives. -/
def rowOf (r : TypedRecord) (request : SearchRequest) (combination : List (String × TypedValue)) :
    SortedRow where
  value := columnValue r combination request.order
  row :=
    { id := r.id
      values := request.columns.map fun column => (column, columnValue r combination column) }

def firstValues (joined : Joined) : Joined :=
  joined.map fun (key, values) => (key, values.take 1)

/-- The rows that a record gives. -/
def recordRows (r : TypedRecord) (request : SearchRequest) : List SortedRow :=
  match joinCriteria r request.criteria with
  | none => []
  | some joined =>
    (combinations (if request.distinct then firstValues joined else joined)).map (rowOf r request)

/-- Compares the values of the order column; a missing value is the least. -/
def compareValues : Option TypedValue → Option TypedValue → Ordering
  | none, none => .eq
  | none, some _ => .lt
  | some _, none => .gt
  | some a, some b => (a.compare? b).getD .eq

/-- Compares rows by the order column in a direction, then by ascending id. -/
def SortedRow.order (direction : SortDirection) (a b : SortedRow) : Ordering :=
  let byValue :=
    match direction with
    | .asc => compareValues a.value b.value
    | .desc => (compareValues a.value b.value).swap
  byValue.then (compare a.row.id b.row.id)

/-- The rows of all records of a view, sorted; rows that compare equal stay in their order. -/
def searchView (view : List TypedRecord) (request : SearchRequest) : List Row :=
  let rows := view.flatMap fun r => recordRows r request
  (rows.mergeSort fun a b => (a.order request.direction b).isLE).map (·.row)

def Inventory.search (i : Inventory) (request : SearchRequest) : List Row :=
  searchView i.view request

end InventorySearch
