import InventorySearch.Service.Error
import InventorySearch.Text.Quoted

/-! Errors written out in full for whoever runs the service: every part with its name, texts quoted
so that they stay on one line. -/
namespace InventorySearch

namespace Json

/-- Parts with a comma and a blank between any two of them. -/
def listed : List (List Char) → List Char
  | [] => []
  | [part] => part
  | part :: parts => part ++ ',' :: ' ' :: listed parts

mutual

/-- The characters of a value written out with the kind of each part. -/
def inspectChars : Json → List Char
  | .null => "Null".toList
  | .bool b => "Bool(".toList ++ (boolText b).toList ++ [')']
  | .number n => "Number(".toList ++ n.toText.toList ++ [')']
  | .string s => "String(".toList ++ (Text.quoted s).toList ++ [')']
  | .array items => "Array [".toList ++ listed (inspectItems items) ++ [']']
  | .object members => "Object \x7b".toList ++ listed (inspectMembers members) ++ ['\x7d']

def inspectItems : List Json → List (List Char)
  | [] => []
  | item :: items => inspectChars item :: inspectItems items

def inspectMembers : List (String × Json) → List (List Char)
  | [] => []
  | (key, value) :: members =>
    ((Text.quoted key).toList ++ ':' :: ' ' :: inspectChars value) :: inspectMembers members

end

/-- A value written out with the kind of each part. -/
def inspect (j : Json) : String := String.ofList j.inspectChars

end Json

namespace Service

def inspectDetails : Option Json → String
  | none => "None"
  | some details => "Some(" ++ details.inspect ++ ")"

def ApiError.inspect (e : ApiError) : String :=
  "ApiError \x7b code: " ++ e.code.name ++ ", message: " ++ Text.quoted e.message ++
    ", details: " ++ inspectDetails e.details ++ " \x7d"

end Service

end InventorySearch
