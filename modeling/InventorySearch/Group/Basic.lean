import InventorySearch.Json.Rule
import Std.Data.TreeMap

/-!
Groups of computers. Members are the computers that a saved query finds, except for those whose
membership is forced one way or the other.
-/
namespace InventorySearch

/-- Whether a computer is a member of a group. -/
inductive Membership where
  /-- The computer is a member when the query of the group finds it. -/
  | automatic
  | always
  | never
  deriving DecidableEq

instance : Choice Membership where
  kind := "membership"
  all := [.automatic, .always, .never]
  code
    | .automatic => "automatic"
    | .always => "always"
    | .never => "never"

/-- A group with its saved query, if it has one, and the memberships set by hand. -/
structure Group where
  name : String
  description : Option String
  query : Option String
  overrides : Std.TreeMap Int64 Membership

namespace Group

/-- A group without query and members. -/
def new (name : String) : Group := ⟨name, none, none, ∅⟩

/-- Sets the membership of a computer; automatic membership is what no entry means. -/
def setMembership (g : Group) (id : Int64) (membership : Membership) : Group :=
  match membership with
  | .automatic => { g with overrides := g.overrides.erase id }
  | forced => { g with overrides := g.overrides.insert id forced }

def membership (g : Group) (id : Int64) : Membership := g.overrides[id]?.getD .automatic

/-- A group with memberships given as pairs, of which the last one for a computer counts. -/
def ofParts (name : String) (description query : Option String)
    (overrides : List (Int64 × Membership)) : Group :=
  ⟨name, description, query, .ofList overrides⟩

open Json in
def rule : Rule Group :=
  Fields.rule <| ofParts
    <$> .required "name" .text
    <*> .withDefault "description" (.nullable .text) none
    <*> .withDefault "predicate" (.nullable .text) none
    <*> .withDefault "overrides" (.entries .keyInt64 .code) []

def overridesToJson (overrides : Std.TreeMap Int64 Membership) : Json :=
  .ofMembers <| overrides.toList.map fun (id, membership) =>
    (toString id.toInt, .string (code membership))

def toJson (g : Group) : Json :=
  .ofMembers
    [("name", .string g.name),
      ("description", .orNull (g.description.map .string)),
      ("predicate", .orNull (g.query.map .string)),
      ("overrides", overridesToJson g.overrides)]

/-- A group as a list shows it: with the number of memberships set by hand, and without what it
does not have. -/
def summary (g : Group) : Json :=
  .ofMembers <|
    [("name", .string g.name), ("overrides", .ofNat g.overrides.size)] ++
      (g.description.map fun text => ("description", .string text)).toList ++
      (g.query.map fun text => ("query", .string text)).toList

end Group

end InventorySearch
