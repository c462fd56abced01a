import InventorySearch.Text.Digit

/-! Whole numbers read from a text: ASCII digits behind an optional sign, within a range. -/
namespace InventorySearch.Number

/-- The number written by one or more ASCII digits and nothing else. -/
def digits? (cs : List Char) : Option Nat :=
  if !cs.isEmpty && cs.all Char.isDigit then some (Text.digitsValue cs) else none

/-- A whole number behind an optional sign. -/
def signed? : List Char → Option Int
  | '-' :: cs => (digits? cs).map fun n => -(n : Int)
  | '+' :: cs => (digits? cs).map fun n => (n : Int)
  | cs => (digits? cs).map fun n => (n : Int)

/-- A number of 64 bits, if it lies in their range. -/
def int64? (n : Int) : Option Int64 :=
  if -(Nat.pow 2 63 : Int) ≤ n ∧ n < Nat.pow 2 63 then some (Int64.ofInt n) else none

/-- A number of 64 bits written behind an optional sign. -/
def readInt64? (s : String) : Option Int64 := (signed? s.toList).bind int64?

/-- A natural number below a bound; a plus sign may stand before it, a minus sign not. -/
def readBelow? (bound : Nat) (s : String) : Option Nat :=
  let digits :=
    match s.toList with
    | '+' :: cs => cs
    | cs => cs
  (digits? digits).filter (· < bound)

end InventorySearch.Number
