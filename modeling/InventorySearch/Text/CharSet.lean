/-! Sets of characters given by the code points at which membership changes. -/
namespace InventorySearch.Text

/-- A set of characters, as the sorted code points at which membership flips; it starts outside. -/
structure CharSet where
  switches : List Nat

/-- A character is inside when an odd number of switch points lie at or below it. -/
def CharSet.contains (s : CharSet) (c : Char) : Bool :=
  (s.switches.takeWhile (· ≤ c.toNat)).length % 2 == 1

end InventorySearch.Text
