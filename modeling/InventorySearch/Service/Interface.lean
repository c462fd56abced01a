import InventorySearch.Json.Basic

/-! What the service offers, as it describes itself to clients: its endpoints with the statuses of
their replies, and the names of the shapes that they take and give. -/
namespace InventorySearch.Service

def version : String := "0.4.0"

/-- One thing that clients can ask for. -/
structure Endpoint where
  path : String
  method : String
  tag : String
  statuses : List Nat
  deriving DecidableEq

def Endpoint.toJson (e : Endpoint) : Json :=
  .array [.string e.path, .string e.method, .ofTexts [e.tag], .ofTexts (e.statuses.map toString)]

namespace Interface

/-- The endpoints in the order of their paths. -/
def endpoints : List Endpoint :=
  [⟨"/api/v1/catalog", "get", "Catalog", [200, 503]⟩,
    ⟨"/api/v1/catalog/extensions", "put", "Catalog", [200, 400]⟩,
    ⟨"/api/v1/computers", "get", "Computers", [200, 303, 500]⟩,
    ⟨"/api/v1/computers/search", "get", "Computers", [200]⟩,
    ⟨"/api/v1/groups", "get", "Groups", [200]⟩,
    ⟨"/api/v1/groups/\x7bname\x7d", "delete", "Groups", [204, 404]⟩,
    ⟨"/api/v1/groups/\x7bname\x7d", "put", "Groups", [200, 400]⟩,
    ⟨"/api/v1/groups/\x7bname\x7d/members", "get", "Groups", [200, 404, 500]⟩,
    ⟨"/api/v1/groups/\x7bname\x7d/members/\x7bid\x7d", "put", "Groups", [200, 400, 404]⟩,
    ⟨"/health", "get", "Health", [200, 503]⟩,
    ⟨"/metrics", "get", "Observability", [200, 500]⟩]

def tags : List String := ["Computers", "Groups", "Catalog", "Health", "Observability"]

/-- The names of the shapes. -/
def schemas : List String :=
  ["ApiError", "CatalogExtensions", "CatalogResponse", "ComputerListResponse",
    "DeclaredFieldType", "ErrorCode", "FieldError", "FilterCriterion", "FilterField", "Group",
    "GroupMembersResponse", "GroupSummary", "HealthResponse", "HealthStatus", "JumpTarget",
    "ListGroupsResponse", "MembershipOverride", "MembershipPredicate", "Operator", "QueryParam",
    "ResultRow", "SearchFormResponse", "SearchRequest", "SetMembershipRequest", "SortDirection",
    "TypedValue", "UpsertGroupRequest", "UserDefinedField", "ValueType", "i64"]

/-- The description of the service as JSON. -/
def toJson : Json :=
  .ofMembers
    [("title", .string "assetdesk API"), ("version", .string version), ("tags", .ofTexts tags),
      ("paths", .array (endpoints.map Endpoint.toJson)), ("schemas", .ofTexts schemas)]

end Interface

end InventorySearch.Service
