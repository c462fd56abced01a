import InventorySearch.Criterion

/-! The columns of a result: the chosen ones, then those that the criteria give cause to show, each
of them once and in the order in which it first comes. -/
namespace InventorySearch

/-- Adds an item at the end unless it is there already. -/
def addNew (items : List String) (item : String) : List String :=
  if items.contains item then items else items ++ [item]

/-- The items without repetitions, each at its first place. -/
def withoutRepeats (items : List String) : List String := items.foldl addNew []

/-- The columns of a search with given chosen columns and criteria. -/
def selectColumns (base : List String) (criteria : List Criterion) : List String :=
  ((criteria.filter Criterion.revealsColumn).map (·.key)).foldl addNew (withoutRepeats base)

end InventorySearch
