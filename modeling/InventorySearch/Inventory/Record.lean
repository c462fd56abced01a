import InventorySearch.Catalog.Basic
import InventorySearch.Json.Rule
import InventorySearch.Value

/-!
Inventory records as they are stored, and their typed view under a catalog. A field holds one
scalar or an array of scalars; null is no value. When records are loaded every field must be known,
when the catalog changes later the fields it does not know are left out of the view.
-/
namespace InventorySearch

/-- A stored record: its fields in the order of their keys, each key once. -/
structure InventoryRecord where
  id : Int64
  fields : List (String × Json)

namespace InventoryRecord

/-- A record from fields in any order; of two fields with one key the last counts. -/
def ofFields (id : Int64) (fields : List (String × Json)) : InventoryRecord :=
  ⟨id, fields.foldl (fun sorted (key, value) => Json.insertMember key value sorted) []⟩

open Json in
def rule : Rule InventoryRecord :=
  Fields.rule <| ofFields <$> .required "id" .int64
    <*> .withDefault "fields" (.entries .keyText .any) []

end InventoryRecord

/-- A record of which every field holds values of one type. -/
structure TypedRecord where
  id : Int64
  fields : List (String × List TypedValue)
  deriving DecidableEq

namespace TypedRecord

/-- The values of a key, none if the record has no such field. -/
def values (r : TypedRecord) (key : String) : List TypedValue := (r.fields.lookup key).getD []

def first? (r : TypedRecord) (key : String) : Option TypedValue := (r.values key).head?

end TypedRecord

/-- What becomes of a field that the catalog does not know. -/
inductive UnknownField where
  | reject
  | skip
  deriving DecidableEq

/-- The scalars of a stored value: the items of an array, or the value itself. -/
def scalars : Json → List Json
  | .array items => items
  | scalar => [scalar]

/-- Reads the scalars of a field as values of a type. -/
def typeValues (key : String) (t : ValueType) (stored : Json) :
    Except SearchError (List TypedValue) :=
  ((scalars stored).mapM fun scalar => TypedValue.ofJson t scalar key).map fun values =>
    values.filterMap id

/-- Types one field; the result is empty for a field that is skipped. -/
def typeField (catalog : Catalog) (unknown : UnknownField) (id : Int64) (field : String × Json) :
    Except SearchError (Option (String × List TypedValue)) :=
  match catalog.typeOf? field.1, unknown with
  | some t, _ => (typeValues field.1 t field.2).map fun values => some (field.1, values)
  | none, .skip => .ok none
  | none, .reject => .error (.unknownColumn ("record " ++ toString id.toInt) field.1)

def typeRecord (catalog : Catalog) (unknown : UnknownField) (r : InventoryRecord) :
    Except SearchError TypedRecord :=
  (r.fields.mapM (typeField catalog unknown r.id)).map fun fields => ⟨r.id, fields.filterMap id⟩

/-- Types records; the first field that cannot be typed is the error. -/
def typeRecords (catalog : Catalog) (unknown : UnknownField) (records : List InventoryRecord) :
    Except SearchError (List TypedRecord) :=
  records.mapM (typeRecord catalog unknown)

/-- The stored records with their current typed view. -/
structure Inventory where
  records : List InventoryRecord
  view : List TypedRecord

namespace Inventory

def empty : Inventory := ⟨[], []⟩

/-- Loads records, of which the catalog must know every field. -/
def load (catalog : Catalog) (records : List InventoryRecord) : Except SearchError Inventory :=
  (typeRecords catalog .reject records).map fun view => ⟨records, view⟩

/-- Types the stored records anew under a catalog. -/
def retype (i : Inventory) (catalog : Catalog) : Except SearchError Inventory :=
  (typeRecords catalog .skip i.records).map fun view => { i with view := view }

end Inventory

end InventorySearch
