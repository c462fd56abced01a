import InventorySearch.Group.Basic
import Std.Data.TreeSet

/-! The members of a group: who is always a member, and who the query finds unless never one. -/
namespace InventorySearch

/-- A set of computers in ascending order of their ids. -/
abbrev IdSet := Std.TreeSet Int64

/-- The members, from the computers that the query finds and the memberships set by hand. -/
def resolveMembers (found : IdSet) (overrides : Std.TreeMap Int64 Membership) : IdSet :=
  let kept := found.filter fun id => overrides[id]? != some .never
  let added := overrides.toList.filter fun entry => entry.2 == .always
  added.foldl (fun members entry => members.insert entry.1) kept

def idsToJson (ids : List Int64) : Json := .array (ids.map fun id => .ofInt id.toInt)

/-- The members of a group as JSON, with the memberships set by hand. -/
def Group.membersToJson (g : Group) (members : IdSet) : Json :=
  .ofMembers
    [("name", .string g.name), ("members", idsToJson members.toList),
      ("total", .ofNat members.size), ("overrides", overridesToJson g.overrides)]

end InventorySearch
