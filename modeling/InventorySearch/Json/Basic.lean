import InventorySearch.Number.Shortest

/-!
JSON values and their compact text. A number is a whole number or a double, as it was written;
the members of an object are kept in the order of their keys, each key once.
-/
namespace InventorySearch

open Number (FiniteDouble)

/-- A JSON number: a whole number, or a double. -/
inductive Json.Number where
  | whole (n : Int)
  | double (d : FiniteDouble)
  deriving DecidableEq

/-- A JSON value. -/
inductive Json where
  | null
  | bool (b : Bool)
  | number (n : Json.Number)
  | string (s : String)
  | array (items : List Json)
  | object (members : List (String × Json))

namespace Json

def Number.toText : Json.Number → String
  | .whole n => toString n
  | .double d => d.toText

def boolText (b : Bool) : String := if b then "true" else "false"

/-- How one character is written inside a JSON string. -/
def escapeChar (c : Char) : List Char :=
  if c = '\"' then ['\\', '\"']
  else if c = '\\' then ['\\', '\\']
  else if c = '\n' then ['\\', 'n']
  else if c = '\r' then ['\\', 'r']
  else if c = '\t' then ['\\', 't']
  else if c.toNat = 8 then ['\\', 'b']
  else if c.toNat = 12 then ['\\', 'f']
  else if c.toNat < 32 then
    ['\\', 'u', '0', '0', (c.toNat / 16).digitChar, (c.toNat % 16).digitChar]
  else [c]

/-- A text as a JSON string. -/
def escape (s : String) : List Char := '\"' :: (s.toList.flatMap escapeChar ++ ['\"'])

/-- Items with a comma between any two of them. -/
def commaSeparated : List (List Char) → List Char
  | [] => []
  | [item] => item
  | item :: items => item ++ ',' :: commaSeparated items

mutual

/-- The characters of the compact text of a value. -/
def chars : Json → List Char
  | .null => "null".toList
  | .bool b => (boolText b).toList
  | .number n => n.toText.toList
  | .string s => escape s
  | .array items => '[' :: (commaSeparated (itemChars items) ++ [']'])
  | .object members => '\x7b' :: (commaSeparated (memberChars members) ++ ['\x7d'])

def itemChars : List Json → List (List Char)
  | [] => []
  | item :: items => chars item :: itemChars items

def memberChars : List (String × Json) → List (List Char)
  | [] => []
  | (key, value) :: members => (escape key ++ ':' :: chars value) :: memberChars members

end

/-- The compact text of a value. -/
def toText (j : Json) : String := String.ofList j.chars

def ofInt (n : Int) : Json := .number (.whole n)

def ofNat (n : Nat) : Json := .number (.whole n)

def ofTexts (items : List String) : Json := .array (items.map .string)

/-- A value that may be missing, null standing for none. -/
def orNull (value : Option Json) : Json := value.getD .null

/-- Puts a member into members in the order of their keys, in place of one with the same key. -/
def insertMember (key : String) (value : Json) : List (String × Json) → List (String × Json)
  | [] => [(key, value)]
  | (k, v) :: rest =>
    if key < k then (key, value) :: (k, v) :: rest
    else if key = k then (key, value) :: rest
    else (k, v) :: insertMember key value rest

/-- An object from members in any order; of members with one key the last stays. -/
def ofMembers (members : List (String × Json)) : Json :=
  .object (members.foldl (fun sorted (key, value) => insertMember key value sorted) [])

/-- The member of an object with a given key. -/
def get? (j : Json) (key : String) : Option Json :=
  match j with
  | .object members => members.lookup key
  | _ => none

end Json

end InventorySearch
