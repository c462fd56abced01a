import InventorySearch.QueryString
import InventorySearch.Request.Reading

/-! Saved searches: the query strings by which groups find their members. A saved search is read
strictly, its presentation included, so it is always a list view that can be shown again. -/
namespace InventorySearch

/-- The request that a saved search stands for under a catalog. -/
def savedRequest (catalog : Catalog) (defaults : Defaults) (query : String) :
    Except SearchError SearchRequest :=
  (QueryString.decode query).request catalog defaults .strict

end InventorySearch
