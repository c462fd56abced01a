import InventorySearch.Date
import InventorySearch.Json.Basic
import InventorySearch.Number.DecimalText
import InventorySearch.SearchError
import InventorySearch.Text.Blank

/-!
Typed values: read from the text of a request or from a stored JSON scalar, compared within one
type. The order of doubles is that of their bits, while two doubles are the same value when they
are the same number.
-/
namespace InventorySearch

open Number (FiniteDouble)

/-- A value of one of the searchable types. -/
inductive TypedValue where
  | text (s : String)
  | integer (n : Int64)
  | float (d : FiniteDouble)
  | date (d : Date)
  deriving DecidableEq

namespace TypedValue

def valueType : TypedValue → ValueType
  | text _ => .text
  | integer _ => .integer
  | float _ => .float
  | date _ => .date

def text? : TypedValue → Option String
  | text s => some s
  | _ => none

/-- Compares two values of one type; values of different types cannot be compared. -/
def compare? : TypedValue → TypedValue → Option Ordering
  | text a, text b => some (compare a b)
  | integer a, integer b => some (compare a b)
  | float a, float b => some (a.order b)
  | date a, date b => some (a.order b)
  | _, _ => none

/-- Tells whether two values are the same; the two zeros are one number. -/
def same : TypedValue → TypedValue → Bool
  | float a, float b => a.sameNumber b
  | a, b => a = b

/-- Reads a whole number, blanks around it aside. -/
def readInteger (raw : String) : Except String TypedValue :=
  match Number.readInt64? (Text.trim raw) with
  | some n => .ok (integer n)
  | none => .error "expected an integer"

/-- Reads a number, blanks around it aside. -/
def readFloat (raw : String) : Except String TypedValue :=
  match Number.readDouble? (Text.trim raw) with
  | some (.finite d) => .ok (float d)
  | some .notFinite => .error "expected a finite number"
  | none => .error "expected a number"

/-- Reads a date, blanks around it aside. -/
def readDate (raw : String) : Except String TypedValue :=
  match Date.groups? (Text.trimChars raw.toList) with
  | none => .error "expected a date in yyyy-MM-dd format"
  | some (year, month, day) =>
    match Date.ofGroups? year month day with
    | some d => .ok (date d)
    | none => .error "not a valid calendar date"

/-- Reads a text as a value of a type, or says what was expected. -/
def read (t : ValueType) (raw : String) : Except String TypedValue :=
  match t with
  | .text => .ok (text raw)
  | .integer => readInteger raw
  | .float => readFloat raw
  | .date => readDate raw

/-- Reads a text as a value of a type; the error names the parameter it was given in. -/
def parse (t : ValueType) (raw param : String) : Except SearchError TypedValue :=
  (read t raw).mapError fun reason => .invalidValue param raw reason

/-- The double nearest to a JSON number. -/
def doubleOf? : Json.Number → Option FiniteDouble
  | .whole n => FiniteDouble.ofFraction? (n < 0) n.natAbs 1
  | .double d => some d

/-- The whole number that a JSON number writes. -/
def integerOf? : Json.Number → Option Int64
  | .whole n => Number.int64? n
  | .double _ => none

/-- Reads a stored JSON scalar as a value of a type; null is no value. -/
def ofJson (t : ValueType) (value : Json) (param : String) :
    Except SearchError (Option TypedValue) :=
  match t, value with
  | _, .null => .ok none
  | .integer, .number n =>
    match integerOf? n with
    | some v => .ok (some (integer v))
    | none => .error (.invalidValue param n.toText "expected an integer")
  | .float, .number n =>
    match doubleOf? n with
    | some d => .ok (some (float d))
    | none => .error (.invalidValue param n.toText "expected a number")
  | .text, .number n => .ok (some (text n.toText))
  | .text, .bool b => .ok (some (text (Json.boolText b)))
  | t, .string s => (parse t s param).map some
  | t, other => .error (.invalidValue param other.toText ("expected a " ++ code t ++ " scalar"))

/-- A value as a bare JSON scalar. -/
def toJson : TypedValue → Json
  | text s => .string s
  | integer n => .ofInt n.toInt
  | float d => .number (.double d)
  | date d => .string d.toText

end TypedValue

end InventorySearch
