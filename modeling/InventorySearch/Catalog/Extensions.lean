import InventorySearch.Catalog.Basic
import InventorySearch.Json.Rule

/-!
What an installation adds to the built-in filters: the fields that its users defined and the
registry values that its agents report. The catalog is always built from all of them at once.
-/
namespace InventorySearch

/-- A user-defined field with the type it was declared with. -/
structure DeclaredField where
  name : String
  declaredType : DeclaredType
  deriving DecidableEq

/-- The fields and registry values that are added to the built-in filters. -/
structure Extensions where
  declaredFields : List DeclaredField
  registryValues : List String
  deriving DecidableEq

/-- The key of a user-defined field. -/
def declaredKey (name : String) : String := "UserDefinedInfo." ++ name

/-- The key of a registry value. -/
def registryKey (name : String) : String := "Registry." ++ name

namespace Catalog

def registerDeclared (c : Catalog) (field : DeclaredField) : Catalog :=
  c.register (declaredKey field.name) ("User defined: " ++ field.name) field.declaredType.valueType

/-- Adds a registry value; it is always text. -/
def registerRegistry (c : Catalog) (name : String) : Catalog :=
  c.register (registryKey name) ("Registry: " ++ name) .text

/-- The built-in filters with extensions; of two fields with one name the last counts. -/
def extended (e : Extensions) : Catalog :=
  e.registryValues.foldl registerRegistry (e.declaredFields.foldl registerDeclared builtin)

end Catalog

namespace Extensions

def empty : Extensions := ⟨[], []⟩

open Json

def declaredFieldRule : Rule DeclaredField :=
  Fields.rule <| DeclaredField.mk <$> .required "name" .text <*> .required "declared_type" .code

def rule : Rule Extensions :=
  Fields.rule <| Extensions.mk
    <$> .withDefault "user_defined_fields" (.list declaredFieldRule) []
    <*> .withDefault "registry_values" (.list .text) []

def toJson (e : Extensions) : Json :=
  .ofMembers
    [("user_defined_fields", .array <| e.declaredFields.map fun field =>
        .ofMembers
          [("name", .string field.name), ("declared_type", .string (code field.declaredType))]),
      ("registry_values", .ofTexts e.registryValues)]

end Extensions

end InventorySearch
