import InventorySearch.SearchError
import InventorySearch.Text.Base64
import InventorySearch.Text.Utf8

/-! Field ids: the keys of filters in a form that is safe inside a web page, which is the URL-safe
base64 of their UTF-8 bytes. -/
namespace InventorySearch.FieldId

/-- The field id of a key. -/
def encode (key : String) : String := String.ofList (Text.Base64.encode (Text.Utf8.encode key))

/-- The key of a field id. -/
def decode (id : String) : Except SearchError String :=
  match Text.Base64.decode (Text.Utf8.encode id) with
  | .error fault => .error (.invalidEncoding fault.message)
  | .ok bytes =>
    match Text.Utf8.decode bytes with
    | .error fault => .error (.invalidEncoding fault.message)
    | .ok key => .ok key

end InventorySearch.FieldId
