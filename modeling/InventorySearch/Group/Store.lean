import InventorySearch.Group.Basic

/-! The stored groups by their names, in the order of the names. -/
namespace InventorySearch

/-- Groups by name. -/
structure GroupStore where
  groups : Std.TreeMap String Group

namespace GroupStore

def empty : GroupStore := ⟨∅⟩

/-- Puts a group under its name, in place of one that is there. -/
def put (s : GroupStore) (g : Group) : GroupStore := ⟨s.groups.insert g.name g⟩

/-- A store of groups; of several with one name the last stays. -/
def ofList (groups : List Group) : GroupStore := groups.foldl put empty

def get? (s : GroupStore) (name : String) : Option Group := s.groups[name]?

/-- All groups in the order of their names. -/
def toList (s : GroupStore) : List Group := s.groups.toList.map (·.2)

def size (s : GroupStore) : Nat := s.groups.size

/-- The group that replaces the description and the query of a name and keeps its memberships. -/
def replaced (s : GroupStore) (name : String) (description query : Option String) : Group :=
  { (s.get? name).getD (.new name) with description := description, query := query }

/-- Creates a group, or replaces the description and the query of one that is there. -/
def upsert (s : GroupStore) (name : String) (description query : Option String) : GroupStore :=
  ⟨s.groups.insert name (s.replaced name description query)⟩

/-- Sets the membership of a computer in a group; nothing changes when there is no such group. -/
def setMembership (s : GroupStore) (name : String) (id : Int64) (membership : Membership) :
    GroupStore :=
  match s.get? name with
  | some g => ⟨s.groups.insert name (g.setMembership id membership)⟩
  | none => s

def remove (s : GroupStore) (name : String) : GroupStore := ⟨s.groups.erase name⟩

end GroupStore

end InventorySearch
