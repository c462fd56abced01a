import InventorySearch.Columns
import InventorySearch.Presentation

/-!
Search requests, and the canonical parameters that reproduce one: the criteria in indexed form,
then the presentation. Whether a request came from the search form is not part of them.
-/
namespace InventorySearch

/-- A search in which every part has been checked. -/
structure SearchRequest where
  criteria : List Criterion
  columns : List String
  order : String
  direction : SortDirection
  /-- One row for each record, instead of one for each combination of matching values. -/
  distinct : Bool
  customSearch : Bool
  detailTab : DetailTab
  deriving DecidableEq

namespace SearchRequest

/-- The parameters of the criterion with a given number. -/
def criterionPairs (n : Nat) (c : Criterion) : List (String × String) :=
  let names := CriterionParams.indexed n
  [(names.filter, c.key), (names.search, c.raw), (names.operator, code c.operator)] ++
    if c.invert then [(names.invert, "1")] else []

/-- The parameters of criteria that are numbered from a given number on. -/
def criteriaPairs (n : Nat) : List Criterion → List (String × String)
  | [] => []
  | c :: rest => criterionPairs n c ++ criteriaPairs (n + 1) rest

/-- The canonical parameters of a request. -/
def queryPairs (r : SearchRequest) : List (String × String) :=
  criteriaPairs 1 r.criteria ++
    [("columns", String.intercalate "," r.columns), ("order", r.order),
      ("direction", code r.direction), ("jumpto", code r.detailTab)] ++
    if r.distinct then [("distinct", "")] else []

def toJson (r : SearchRequest) : Json :=
  .ofMembers
    [("criteria", .array (r.criteria.map Criterion.toJson)),
      ("columns", .ofTexts r.columns),
      ("order", .string r.order),
      ("direction", .string (code r.direction)),
      ("distinct", .bool r.distinct),
      ("custom_search", .bool r.customSearch),
      ("jump_to", .string (code r.detailTab))]

end SearchRequest

end InventorySearch
