import InventorySearch.Code

/-!
The types of searchable values, the types a field may be declared with, and the operators that
compare values. Text is searched for equality and by pattern; the other types have an order and
are compared by it.
-/
namespace InventorySearch

/-- The type of the values of a filter. -/
inductive ValueType where
  | text
  | integer
  | float
  | date
  deriving DecidableEq

namespace ValueType

instance : Choice ValueType where
  kind := "value type"
  all := [.text, .integer, .float, .date]
  code
    | .text => "text"
    | .integer => "integer"
    | .float => "float"
    | .date => "date"

/-- Every type but text has an order to search by. -/
def isOrdinal : ValueType → Bool
  | .text => false
  | _ => true

end ValueType

/-- How a value is compared with the one that a criterion gives. -/
inductive Operator where
  | eq
  | ne
  | lt
  | le
  | ge
  | gt
  | like
  deriving DecidableEq

namespace Operator

instance : Choice Operator where
  kind := "operator"
  all := [.eq, .ne, .lt, .le, .ge, .gt, .like]
  code
    | .eq => "eq"
    | .ne => "ne"
    | .lt => "lt"
    | .le => "le"
    | .ge => "ge"
    | .gt => "gt"
    | .like => "like"

end Operator

/-- The operators for a type, in the order in which a form shows them. -/
def ValueType.operators (t : ValueType) : List Operator :=
  if t.isOrdinal then [.eq, .ne, .lt, .le, .ge, .gt] else [.eq, .ne, .like]

/-- Tells whether values of a type can be compared by an operator. -/
def Operator.allowedFor (op : Operator) (t : ValueType) : Bool := t.operators.contains op

/-- The type that a user-defined field is declared with. -/
inductive DeclaredType where
  | text
  | clob
  | integer
  | float
  | date
  deriving DecidableEq

namespace DeclaredType

instance : Choice DeclaredType where
  kind := "field type"
  all := [.text, .clob, .integer, .float, .date]
  code
    | .text => "text"
    | .clob => "clob"
    | .integer => "integer"
    | .float => "float"
    | .date => "date"

/-- The type that a declared field is searched with; long text is searched like text. -/
def valueType : DeclaredType → ValueType
  | .text => .text
  | .clob => .text
  | .integer => .integer
  | .float => .float
  | .date => .date

end DeclaredType

end InventorySearch
