import InventorySearch.Request.Params
import InventorySearch.Text.Pieces
import InventorySearch.Text.Utf8

/-!
Query strings: pairs joined by ampersands, with every byte percent-encoded but for letters, digits
and four signs. Reading is lenient: a plus sign is a space, a percent sign that no two hexadecimal
digits follow stands for itself, and what is not UTF-8 is replaced.
-/
namespace InventorySearch.QueryString

/-- Tells whether a byte is written as itself. -/
def isPlain (b : UInt8) : Bool :=
  let c := Char.ofNat b.toNat
  c.isAlphanum || c == '-' || c == '_' || c == '.' || c == '~'

/-- The hexadecimal digit of a number below 16, in capital letters. -/
def hexDigit (n : Nat) : Char := if n < 10 then Char.ofNat (48 + n) else Char.ofNat (55 + n)

/-- A byte as it is written. -/
def encodeByte (b : UInt8) : List Char :=
  if isPlain b then [Char.ofNat b.toNat] else ['%', hexDigit (b.toNat / 16), hexDigit (b.toNat % 16)]

/-- A name or a value as it is written. -/
def encodePart (s : String) : List Char := (Text.Utf8.encode s).flatMap encodeByte

def encodePair (pair : String × String) : List Char :=
  encodePart pair.1 ++ '=' :: encodePart pair.2

/-- Pairs with an ampersand between any two of them. -/
def joinPairs : List (List Char) → List Char
  | [] => []
  | [pair] => pair
  | pair :: pairs => pair ++ '&' :: joinPairs pairs

/-- The query string of pairs. -/
def encode (pairs : List (String × String)) : String :=
  String.ofList (joinPairs (pairs.map encodePair))

/-- The number of a byte that is a hexadecimal digit. -/
def hexValue? (b : UInt8) : Option Nat :=
  let n := b.toNat
  if 48 ≤ n ∧ n ≤ 57 then some (n - 48)
  else if 65 ≤ n ∧ n ≤ 70 then some (n - 55)
  else if 97 ≤ n ∧ n ≤ 102 then some (n - 87)
  else none

/-- The byte that two hexadecimal digits write. -/
def hexByte? (high low : UInt8) : Option UInt8 :=
  match hexValue? high, hexValue? low with
  | some h, some l => some (UInt8.ofNat (16 * h + l))
  | _, _ => none

/-- Replaces percent signs that two hexadecimal digits follow by the bytes they mean. -/
def percentDecode : List UInt8 → List UInt8
  | p :: high :: low :: rest =>
    if p = 0x25 then
      match hexByte? high low with
      | some b => b :: percentDecode rest
      | none => p :: percentDecode (high :: low :: rest)
    else p :: percentDecode (high :: low :: rest)
  | bytes => bytes

def decodePart (cs : List Char) : String :=
  let spaced := cs.map fun c => if c = '+' then ' ' else c
  Text.Utf8.decodeLossy (percentDecode (Text.Utf8.encode (String.ofList spaced)))

/-- Reads a pair; without an equals sign it is a name with an empty value. -/
def decodePair (cs : List Char) : String × String :=
  let (name, value) := Text.cutFirst '=' cs
  (decodePart name, decodePart value)

def decode (s : String) : Params :=
  ⟨((Text.cutAt '&' s.toList).filter fun pair => !pair.isEmpty).map decodePair⟩

end InventorySearch.QueryString
