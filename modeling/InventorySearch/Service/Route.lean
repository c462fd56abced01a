import InventorySearch.QueryString

/-!
Where a path leads. A path is cut at its slashes before anything in it is decoded, so that an
encoded slash belongs to a name. Nothing may be missing at the end of a path, a name in the middle
may be empty. Pages on which the interface can be browsed, below `/swagger-ui`, and the copy of its
description below `/api-docs` are only there in some builds, and are left out.
-/
namespace InventorySearch.Service

/-- What a path names; the name of a group and the id of a computer are still encoded. -/
inductive Route where
  | computers
  | searchForm
  | groups
  | group (name : String)
  | groupMembers (name : String)
  | groupMember (name id : String)
  | catalog
  | extensions
  | health
  | metrics
  | interface
  deriving DecidableEq

namespace Route

/-- A route that ends in a name, which must not be empty. -/
def ending (route : String → Route) (last : String) : Option Route :=
  if last.isEmpty then none else some (route last)

def ofGroupSegments? : List String → Option Route
  | [] => some groups
  | [name] => ending group name
  | [name, "members"] => some (groupMembers name)
  | [name, "members", id] => ending (groupMember name) id
  | _ => none

def ofInterfaceSegments? : List String → Option Route
  | ["computers"] => some computers
  | ["computers", "search"] => some searchForm
  | "groups" :: rest => ofGroupSegments? rest
  | ["catalog"] => some catalog
  | ["catalog", "extensions"] => some extensions
  | _ => none

def ofSegments? : List String → Option Route
  | "api" :: "v1" :: rest => ofInterfaceSegments? rest
  | ["health"] => some health
  | ["metrics"] => some metrics
  | ["openapi.json"] => some interface
  | _ => none

/-- The route that a path leads to. -/
def ofPath? (path : String) : Option Route :=
  match Text.pieces '/' path with
  | "" :: segments => ofSegments? segments
  | _ => none

/-- Decodes a segment, which must be UTF-8. -/
def decodeSegment? (segment : String) : Option String :=
  (Text.Utf8.decode (QueryString.percentDecode (Text.Utf8.encode segment))).toOption

end Route

end InventorySearch.Service
