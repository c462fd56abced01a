import InventorySearch.Catalog.Basic
import InventorySearch.Value
import InventorySearch.Wildcard

/-!
Criteria: one filter key with an operator, a value and whether the condition is inverted. A
criterion is only built from a key of the catalog, an operator for the type of the key and a text
that reads as a value of that type.
-/
namespace InventorySearch

/-- One condition of a search. -/
structure Criterion where
  key : String
  operator : Operator
  raw : String
  value : TypedValue
  invert : Bool
  deriving DecidableEq

/-- The names of the parameters that a criterion was given in. -/
structure CriterionParams where
  filter : String
  search : String
  operator : String
  invert : String

namespace CriterionParams

def suffixed (suffix : String) : CriterionParams :=
  ⟨"filter" ++ suffix, "search" ++ suffix, "operator" ++ suffix, "invert" ++ suffix⟩

/-- The parameter names of the one criterion of the singular form. -/
def singular : CriterionParams := suffixed ""

def indexed (n : Nat) : CriterionParams := suffixed (toString n)

end CriterionParams

namespace Criterion

/-- Builds a criterion, or tells which of its parameters is wrong. -/
def build (catalog : Catalog) (key : String) (operator : Operator) (raw : String) (invert : Bool)
    (params : CriterionParams) : Except SearchError Criterion :=
  match catalog.typeOf? key with
  | none => .error (.unknownFilter params.filter key)
  | some valueType =>
    if operator.allowedFor valueType then
      (TypedValue.parse valueType raw params.search).map fun value =>
        ⟨key, operator, raw, value, invert⟩
    else .error (.operatorNotAllowed params.operator key operator valueType)

/-- Tells whether a comparison has the result that an operator asks for. -/
def accepts : Operator → Ordering → Bool
  | .eq, o => o == .eq
  | .ne, o => o != .eq
  | .lt, o => o == .lt
  | .le, o => o != .gt
  | .ge, o => o != .lt
  | .gt, o => o == .gt
  | .like, _ => false

/-- Tells whether a stored value satisfies the operator, inversion aside. A value of another type
never does. -/
def operatorMatches (c : Criterion) (candidate : TypedValue) : Bool :=
  match c.operator with
  | .like =>
    match c.value.text?, candidate.text? with
    | some pattern, some text => Wildcard.like pattern text
    | _, _ => false
  | operator =>
    match candidate.compare? c.value with
    | some o => accepts operator o
    | none => false

/-- Tells whether a stored value satisfies the criterion. -/
def holds (c : Criterion) (candidate : TypedValue) : Bool := c.operatorMatches candidate != c.invert

/-- Plain equality implies the value of a column; any other criterion gives cause to show it. -/
def revealsColumn (c : Criterion) : Bool := c.operator != .eq || c.invert

def toJson (c : Criterion) : Json :=
  .ofMembers
    [("filter_key", .string c.key), ("operator", .string (code c.operator)),
      ("raw_value", .string c.raw), ("typed_value", c.value.toJson), ("invert", .bool c.invert)]

end Criterion

end InventorySearch
