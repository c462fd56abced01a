/-!
Blank characters and trimming. Blank means the Unicode property White_Space, so the no-break
space and the ideographic space are blank and the zero-width space is not.
-/
namespace InventorySearch.Text

/-- The characters with the Unicode property White_Space. -/
def isBlank (c : Char) : Bool :=
  let n := c.toNat
  (9 ≤ n && n ≤ 13) || n == 0x20 || n == 0x85 || n == 0xA0 || n == 0x1680 ||
    (0x2000 ≤ n && n ≤ 0x200A) || n == 0x2028 || n == 0x2029 || n == 0x202F || n == 0x205F ||
    n == 0x3000

/-- Drops the blank characters at both ends of a list of characters. -/
def trimChars (cs : List Char) : List Char :=
  ((cs.dropWhile isBlank).reverse.dropWhile isBlank).reverse

/-- Drops the blank characters at both ends of a text. -/
def trim (s : String) : String := String.ofList (trimChars s.toList)

/-- A text is blank when trimming leaves nothing of it. -/
def isBlankText (s : String) : Bool := (trim s).isEmpty

/-- Lowers the letters A to Z and keeps every other character. -/
def asciiLower (s : String) : String :=
  String.ofList (s.toList.map fun c => if 'A' ≤ c ∧ c ≤ 'Z' then Char.ofNat (c.toNat + 32) else c)

end InventorySearch.Text
