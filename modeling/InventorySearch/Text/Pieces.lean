import InventorySearch.Text.Blank

/-! Cutting a text at a separator character or behind a number of bytes. -/
namespace InventorySearch.Text

/-- Cuts a list at every separator; n separators give n + 1 pieces. -/
def cutAt (separator : Char) : List Char → List (List Char)
  | [] => [[]]
  | c :: rest =>
    if c = separator then [] :: cutAt separator rest
    else
      match cutAt separator rest with
      | [] => [[c]]
      | piece :: pieces => (c :: piece) :: pieces

/-- The pieces of a text between the separators. -/
def pieces (separator : Char) (s : String) : List String :=
  (cutAt separator s.toList).map String.ofList

/-- The trimmed pieces of a comma-separated list, without the blank ones. -/
def commaList (s : String) : List String :=
  ((cutAt ',' s.toList).map fun piece => String.ofList (trimChars piece)).filter
    fun piece => !piece.isEmpty

/-- Splits at the first separator; without one the second part is empty. -/
def cutFirst (separator : Char) (cs : List Char) : List Char × List Char :=
  (cs.takeWhile (· ≠ separator), (cs.dropWhile (· ≠ separator)).drop 1)

/-- The number of bytes that characters take up. -/
def byteLength (cs : List Char) : Nat := cs.foldl (fun length c => length + c.utf8Size) 0

/-- The first characters, up to a number of bytes. -/
def takeBytes (n : Nat) : List Char → List Char
  | [] => []
  | c :: cs => if n = 0 then [] else c :: takeBytes (n - c.utf8Size) cs

/-- The characters behind a number of bytes. -/
def dropBytes (n : Nat) : List Char → List Char
  | [] => []
  | c :: cs => if n = 0 then c :: cs else dropBytes (n - c.utf8Size) cs

end InventorySearch.Text
