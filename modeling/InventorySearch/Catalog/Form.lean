import InventorySearch.Catalog.Basic
import InventorySearch.FieldId

/-! The catalog as clients see it: each filter with its operators and its field id. -/
namespace InventorySearch

/-- A filter with what a form needs of it. -/
def FilterDefinition.toFormJson (d : FilterDefinition) : Json :=
  .ofMembers
    [("key", .string d.key), ("label", .string d.label),
      ("value_type", .string (code d.valueType)),
      ("operators", .ofTexts (d.valueType.operators.map code)),
      ("field_id", .string (FieldId.encode d.key))]

def Catalog.formFields (c : Catalog) : Json :=
  .array (c.definitions.map FilterDefinition.toFormJson)

def Catalog.toJson (c : Catalog) : Json :=
  .ofMembers [("filters", c.formFields), ("total", .ofNat c.size)]

end InventorySearch
