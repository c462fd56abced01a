import InventorySearch.Text.Hidden

/-!
Texts quoted for a message: between double quotes, with a backslash before what would end or
bend the quotation, and hidden characters written by their code point.
-/
namespace InventorySearch.Text

/-- The lowercase hexadecimal digits of a number, without leading zeros. -/
def hexDigits (n : Nat) : List Char := Nat.toDigits 16 n

/-- How one character is written between the quotes. -/
def quoteChar (c : Char) : List Char :=
  if c = '\"' then ['\\', '\"']
  else if c = '\\' then ['\\', '\\']
  else if c = '\n' then ['\\', 'n']
  else if c = '\r' then ['\\', 'r']
  else if c = '\t' then ['\\', 't']
  else if c.toNat = 0 then ['\\', '0']
  else if isHidden c then ['\\', 'u', '\x7b'] ++ hexDigits c.toNat ++ ['\x7d']
  else [c]

/-- The text between double quotes with its awkward characters escaped. -/
def quoted (s : String) : String :=
  String.ofList ('\"' :: (s.toList.flatMap quoteChar ++ ['\"']))

/-- The quoted texts of a list, between brackets and separated by commas. -/
def quotedList (items : List String) : String :=
  "[" ++ String.intercalate ", " (items.map quoted) ++ "]"

end InventorySearch.Text
